import ArenaLang.Proofs.Levels
import ArenaLang.Proofs.Runs

namespace ArenaLang

open MemoryM

/-! ## Cursors that need no padding -/

def Memory.AtCursor (memory : Memory) (place : Place) : Prop :=
  memory.arena.cursors[place.region]? = some place.offset ∨ place = ⟨memory.arena.regions.length, 0⟩

theorem Region.nextOffset_of_dvd {region : Region} {layout : Layout} (sound : region.Sound)
    (small : layout.align ∣ alignment) (cursor : layout.align ∣ region.cursor) :
    region.nextOffset layout = region.cursor := by
  have aligned : layout.align ∣ region.base + region.cursor := Nat.dvd_add (Nat.dvd_trans small sound.aligned) cursor
  exact Nat.le_antisymm (nextOffset_le (Nat.le_refl _) aligned) (region.cursor_le_nextOffset layout)

structure Memory.CarvesAt (memory carved : Memory) (layout : Layout) (place : Place) : Prop where
  atCursor : memory.AtCursor place
  whole : ∀ cursor ∈ carved.arena.cursors, layout.align ∣ cursor
  sum : carved.arena.cursors.sum = memory.arena.cursors.sum + layout.size

theorem Memory.Allocates.carvesAt {memory carved : Memory} {layout : Layout} {place : Place}
    (allocates : memory.Allocates layout (.ok place, carved)) (sound : memory.Sound)
    (small : layout.align ∣ Region.alignment) (stride : layout.align ∣ layout.size)
    (whole : ∀ cursor ∈ memory.arena.cursors, layout.align ∣ cursor) : memory.CarvesAt carved layout place := by
  cases allocates with
  | @carved index region held _ _ =>
      have found := Arena.getElem?_cursors held
      have multiple := whole _ (List.mem_of_getElem? found)
      have offset := Region.nextOffset_of_dvd (sound.regions region (List.mem_of_getElem? held)) small multiple
      have cursors : (memory.withRegions (memory.arena.regions.set index (region.carved layout))).arena.cursors =
          memory.arena.cursors.set index (region.cursor + layout.size) := by
        rw [← offset]
        exact List.map_set
      refine ⟨.inl (offset ▸ found), ?_, ?_⟩
      · intro cursor member
        rw [cursors] at member
        rcases List.mem_or_eq_of_mem_set member with before | rfl
        · exact whole cursor before
        · exact Nat.dvd_add multiple stride
      · have sums := sum_set_add found (region.cursor + layout.size)
        rw [cursors]
        omega
  | @grown fresh request _ _ made _ =>
      obtain ⟨fine, empty⟩ := Arena.newRegion_sound sound.system made
      have start : layout.align ∣ fresh.cursor := empty ▸ Nat.dvd_zero _
      have offset : fresh.nextOffset layout = 0 := (Region.nextOffset_of_dvd fine small start).trans empty
      have cursors : (memory.arena.regions ++ [fresh.carved layout]).map Region.cursor =
          memory.arena.cursors ++ [layout.size] := by
        rw [List.map_append, List.map_singleton, Region.carved, offset, Nat.zero_add]
        rfl
      refine ⟨.inr (congrArg _ offset), ?_, ?_⟩
      · intro cursor member
        simp only [Arena.cursors, Memory.withRegions, cursors, List.mem_append, List.mem_singleton] at member
        rcases member with before | rfl
        · exact whole cursor before
        · exact stride
      · simp only [Arena.cursors, Memory.withRegions, cursors, List.sum_append, List.sum_singleton]

theorem Memory.reclaimed_whole {memory : Memory} {block : Block} (stride : block.layout.align ∣ block.layout.size)
    (whole : ∀ cursor ∈ memory.arena.cursors, block.layout.align ∣ cursor) :
    (∀ cursor ∈ (memory.reclaimed block).arena.cursors, block.layout.align ∣ cursor) ∧
      (memory.reclaimed block).arena.cursors.sum ≤ memory.arena.cursors.sum ∧
      memory.arena.cursors.sum ≤ (memory.reclaimed block).arena.cursors.sum + block.layout.size := by
  rcases memory.cursors_reclaimed block with same | ⟨held, lowered⟩
  · rw [same]
    exact ⟨whole, Nat.le_refl _, Nat.le_add_right _ _⟩
  · have start := (Nat.dvd_add_left stride).mp (whole _ (List.mem_of_getElem? held))
    have sums := sum_set_add held block.place.offset
    rw [lowered]
    refine ⟨?_, by omega, by omega⟩
    intro cursor member
    rcases List.mem_or_eq_of_mem_set member with before | rfl
    · exact whole cursor before
    · exact start

namespace Buffer

variable {α : Type} [Storable α] {buffer next grown : Buffer α} {memory after : Memory} {capacity : Nat}

/-! ## What actions come to -/

inductive Comes (buffer : Buffer α) (memory : Memory) (next : Buffer α) (after : Memory) : Prop
  | stayed (place : next.place = buffer.place) (capacity : next.capacity = buffer.capacity)
      (cursors : after.arena.cursors = memory.arena.cursors)
  | grew {capacity : Nat} {grown : Buffer α} {middle : Memory} (larger : growth buffer.capacity 1 ≤ capacity)
      (growing : buffer.grow capacity memory = (.ok grown, middle)) (place : next.place = grown.place)
      (same : next.capacity = grown.capacity) (cursors : after.arena.cursors = middle.arena.cursors)

theorem growth_le_of_capacityWith {required last : Nat} (below : capacity < required)
    (made : capacityWith required capacity = .ok last) : growth capacity 1 ≤ last := by
  rw [capacityWith_step below, nextCapacity_eq] at made
  split at made
  · exact capacity_le_of_capacityWith made
  · cases made

theorem fill_done {elements : List α} (done : buffer.fill elements memory = (.ok next, after)) :
    next.place = buffer.place ∧ next.capacity = buffer.capacity ∧ after.arena.cursors = memory.arena.cursors := by
  by_cases room : buffer.length + elements.length ≤ buffer.capacity
  · obtain ⟨last, filled, outline, _⟩ := fill_of_room room memory
    cases done.symm.trans filled
    exact ⟨rfl, rfl, Arena.cursors_eq_of_outline outline⟩
  · rw [fill, decide_eq_false room] at done
    cases done

theorem Comes.filled {elements : List α} {middle : Memory} (comes : buffer.Comes memory grown middle)
    (done : grown.fill elements middle = (.ok next, after)) : buffer.Comes memory next after := by
  obtain ⟨kept, room, unmoved⟩ := fill_done done
  cases comes with
  | stayed place capacity cursors => exact .stayed (kept.trans place) (room.trans capacity) (unmoved.trans cursors)
  | grew larger growing place same cursors =>
      exact .grew larger growing (kept.trans place) (room.trans same) (unmoved.trans cursors)

theorem reserve_comes {additional : Nat} (done : buffer.reserve additional memory = (.ok next, after)) :
    buffer.Comes memory next after := by
  by_cases word : buffer.length + additional < Word.limit
  · by_cases below : buffer.capacity < buffer.length + additional
    · rw [reserve_of_lt below word] at done
      cases made : capacityWith (buffer.length + additional) buffer.capacity with
      | error refusal =>
          rw [made] at done
          cases done
      | ok capacity =>
          rw [made] at done
          exact .grew (growth_le_of_capacityWith below made) done rfl rfl rfl
    · rw [reserve, Word.add?, if_pos word] at done
      simp only [if_pos (Nat.not_lt.mp below)] at done
      cases done
      exact .stayed rfl rfl rfl
  · rw [reserve, Word.add?, if_neg word] at done
    cases done

theorem growByOne_comes (full : buffer.length = buffer.capacity)
    (done : buffer.growByOne memory = (.ok next, after)) : buffer.Comes memory next after := by
  rw [growByOne_of_full full, nextCapacity_eq] at done
  split at done
  · cases done
  · rename_i made
    split at made
    · cases made
      exact .grew (Nat.le_refl _) done rfl rfl rfl
    · cases made

theorem action_comes {action : Action α} (done : action.run buffer memory = (.ok next, after)) :
    buffer.Comes memory next after := by
  cases action with
  | push a =>
      rw [Action.run, push] at done
      split at done
      · rename_i full
        obtain ⟨roomy, middle, growing, filling⟩ := bind_done done
        exact (growByOne_comes full growing).filled filling
      · have still : buffer.Comes memory buffer memory := .stayed rfl rfl rfl
        exact still.filled done
  | extend elements =>
      obtain ⟨roomy, middle, reserving, filling⟩ := bind_done done
      exact (reserve_comes reserving).filled filling
  | reserve additional => exact reserve_comes done

/-! ## The only user of an arena -/

/-- A buffer that started out empty in an arena, with the memory as it left it. Nothing else was done
there; what was refused left the buffer as it was. -/
inductive Sole (start : Memory) : Buffer α → Memory → Prop
  | empty : Sole start .empty start
  | acted {buffer next : Buffer α} {memory after : Memory} {action : Action α} (before : Sole start buffer memory)
      (done : action.run buffer memory = (.ok next, after)) : Sole start next after
  | refused {buffer : Buffer α} {memory after : Memory} {action : Action α} {failure : Failure}
      (before : Sole start buffer memory) (failed : action.run buffer memory = (.error failure, after)) :
      Sole start buffer after

inductive Takes (width capacity used : Nat) : Prop
  | nothing (empty : capacity = 0) (unused : used = 0)
  | some (room : leastCapacity ≤ capacity) (least : capacity * width ≤ used)
      (most : used ≤ (2 * capacity - leastCapacity) * width)

structure Occupies (buffer : Buffer α) (memory : Memory) : Prop where
  stands : ∃ elements ledger, buffer.Stands elements ledger ∧ memory.Holds ledger
  whole : ∀ cursor ∈ memory.arena.cursors, (Storable.layoutOf α).align ∣ cursor
  takes : Takes (Storable.widthOf α) buffer.capacity memory.arena.cursors.sum

theorem array?_stride {layout : Layout} {count : Nat} (found : (Storable.layoutOf α).array? count = some layout) :
    layout.align = (Storable.layoutOf α).align ∧ layout.align ∣ layout.size ∧
      layout.size = count * Storable.widthOf α := by
  obtain ⟨size, align⟩ := Layout.array?_eq_some found
  have stride : (Storable.layoutOf α).align ∣ Storable.widthOf α := Storable.stride
  exact ⟨align, align ▸ size ▸ Nat.dvd_mul_left_of_dvd stride count, size⟩

omit [Storable α] in
/-- The old block takes no more than half of what the new one does, so all blocks together stay within
twice the last. -/
theorem Takes.grow {width used more old new : Nat} (takes : Takes width old used) (larger : growth old 1 ≤ new)
    (above : used + new * width ≤ more + old * width) (below : more ≤ used + new * width) : Takes width new more := by
  have four : leastCapacity = 4 := rfl
  simp only [growth, Nat.pow_zero, Nat.mul_one] at larger
  cases takes with
  | nothing empty unused =>
      have twice : new * width ≤ (2 * new - leastCapacity) * width := Nat.mul_le_mul_right _ (by omega)
      rw [empty, Nat.zero_mul] at above
      exact .some (by omega) (by omega) (by omega)
  | some room least most =>
      have twice : (2 * old - leastCapacity) * width + new * width ≤ (2 * new - leastCapacity) * width := by
        rw [← Nat.add_mul]
        exact Nat.mul_le_mul_right _ (by omega)
      exact .some (by omega) (by omega) (by omega)

structure GrewAt (memory : Memory) (grown : Buffer α) (after : Memory) : Prop where
  atCursor : ∃ place, grown.place = some place ∧ memory.AtCursor place
  whole : ∀ cursor ∈ after.arena.cursors, (Storable.layoutOf α).align ∣ cursor
  takes : Takes (Storable.widthOf α) grown.capacity after.arena.cursors.sum

theorem Occupies.grow (small : (Storable.layoutOf α).align ≤ Region.alignment) (occupies : buffer.Occupies memory)
    (larger : growth buffer.capacity 1 ≤ capacity) (done : buffer.grow capacity memory = (.ok grown, after)) :
    GrewAt memory grown after := by
  obtain ⟨old, new, place, moved, before, behind, moving, rfl, arena⟩ := grow_done done
  obtain ⟨elements, ledger, stands, holds⟩ := occupies.stands
  have sixteen : (Storable.layoutOf α).align ∣ Region.alignment := by
    obtain low | high := (Storable.layoutOf α).align_dvd_or
    · exact low
    · exact (Nat.le_antisymm small (Nat.le_of_dvd (Storable.layoutOf α).align_pos high)) ▸ Nat.dvd_refl _
  -- All cursors are multiples of the elements' alignment, so carving pads nothing and the sum is exact.
  have carving {resized : Layout} {carved : Memory} (found : old.resize? new.size = some resized)
      (allocated : allocate resized memory = (.ok place, carved)) :
      memory.CarvesAt carved resized place ∧ resized.align = (Storable.layoutOf α).align ∧
        resized.size = capacity * Storable.widthOf α := by
    obtain ⟨align, stride, size⟩ := array?_stride (Layout.array?_of_resize? before behind found)
    have outcome := Memory.allocate_outcome holds.sound resized
    rw [allocated] at outcome
    exact ⟨outcome.carvesAt holds.sound (align ▸ sixteen) stride (align ▸ occupies.whole), align, size⟩
  cases stands with
  | unplaced nowhere _ _ none =>
      rw [nowhere] at moving
      obtain ⟨resized, found, allocated⟩ := reallocate_none_done moving
      obtain ⟨carves, align, size⟩ := carving found allocated
      have sum := carves.sum
      rw [size] at sum
      have takes : Takes (Storable.widthOf α) capacity moved.arena.cursors.sum :=
        occupies.takes.grow larger (by omega) (by omega)
      exact ⟨⟨place, rfl, carves.atCursor⟩, arena ▸ align ▸ carves.whole, arena ▸ takes⟩
  | @placed first layout rest here _ _ laid =>
      cases laid.symm.trans before
      rw [here] at moving
      obtain ⟨resized, carved, filled, found, allocated, outline, left⟩ := reallocate_held_done holds moving
      obtain ⟨carves, align, size⟩ := carving found allocated
      obtain ⟨same, stride, had⟩ := array?_stride laid
      have sum := carves.sum
      have whole := carves.whole
      rw [← Arena.cursors_eq_of_outline outline] at sum whole
      obtain ⟨kept, lower, upper⟩ := @Memory.reclaimed_whole filled ⟨first, old⟩ stride (same.trans align.symm ▸ whole)
      rw [size] at sum
      simp only [had] at upper
      have takes : Takes (Storable.widthOf α) capacity (filled.reclaimed ⟨first, old⟩).arena.cursors.sum :=
        occupies.takes.grow larger (by omega) (by omega)
      rw [← left] at kept takes
      exact ⟨⟨place, rfl, carves.atCursor⟩, arena ▸ same ▸ kept, arena ▸ takes⟩

theorem Occupies.act {action : Action α} (small : (Storable.layoutOf α).align ≤ Region.alignment)
    (occupies : buffer.Occupies memory) (done : action.run buffer memory = (.ok next, after)) :
    next.Occupies after ∧ (next.capacity ≠ buffer.capacity →
      ∃ place, next.place = some place ∧ memory.AtCursor place) := by
  obtain ⟨elements, ledger, stands, holds⟩ := occupies.stands
  have outcome := action_triple stands action [] memory ((List.append_nil ledger).symm ▸ holds)
  rw [done] at outcome
  have standing : ∃ elements ledger, next.Stands elements ledger ∧ after.Holds ledger := by
    cases outcome with
    | done _ given held => exact ⟨_, _, given, held.left⟩
  cases action_comes done with
  | stayed place capacity cursors =>
      exact ⟨⟨standing, cursors ▸ occupies.whole, cursors ▸ capacity ▸ occupies.takes⟩,
        fun changed => absurd capacity changed⟩
  | @grew _ grown middle larger growing place same cursors =>
      obtain ⟨carved, whole, takes⟩ := occupies.grow small larger growing
      exact ⟨⟨standing, cursors ▸ whole, cursors ▸ same ▸ takes⟩, fun _ => place ▸ carved⟩

theorem Sole.occupies {start : Memory} (sized : 0 < Storable.widthOf α)
    (small : (Storable.layoutOf α).align ≤ Region.alignment) (holds : start.Holds [])
    (unused : ∀ cursor ∈ start.arena.cursors, cursor = 0) (sole : buffer.Sole start memory) :
    buffer.Occupies memory := by
  induction sole with
  | empty =>
      have none : (Buffer.empty : Buffer α).capacity = 0 := if_neg (Nat.ne_of_gt sized)
      refine ⟨⟨[], [], empty_stands, holds⟩, ?_, .nothing none (List.sum_eq_zero_iff_forall_eq_nat.mpr unused)⟩
      intro cursor member
      exact unused cursor member ▸ Nat.dvd_zero _
  | acted _ done ih => exact (ih.act small done).1
  | @refused buffer memory after action failure _ failed ih =>
      obtain ⟨elements, ledger, stands, holds⟩ := ih.stands
      rw [← List.append_nil ledger] at holds
      have refusal := (action_triple stands action).ends holds
      rcases refusal with ⟨refusal, refused⟩ | ⟨_, _, done⟩
      · have same := action_atomic buffer action memory refusal refused
        rw [failed] at same
        obtain rfl : after = memory := same
        exact ih
      · cases failed.symm.trans done

end Buffer

theorem Memory.create_unused {system : System} {options : Options} {request : Nat} {start : Memory}
    (sound : system.Sound) (created : create system options request = .ok start) :
    ∀ cursor ∈ start.arena.cursors, cursor = 0 := by
  unfold create at created
  simp only [bind, Except.bind] at created
  split at created
  · cases created
  · rename_i made
    cases created
    intro cursor member
    exact (List.mem_singleton.mp member).trans (Arena.newRegion_sound sound made).2

/-- A buffer that is alone in an arena takes no less than its capacity, and no more than twice that but
for four elements, however it grew; and each block it ever had was carved exactly at a cursor. -/
theorem sole_buffer_takes_at_most_twice {system : System} {options : Options} {request : Nat} {start memory : Memory}
    {α : Type} [Storable α] {buffer : Buffer α} (sound : system.Sound)
    (created : Memory.create system options request = .ok start) (sized : 0 < Storable.widthOf α)
    (small : (Storable.layoutOf α).align ≤ 16) (sole : buffer.Sole start memory) :
    (buffer.capacity = 0 → memory.arena.stats.used = 0) ∧
      (buffer.capacity ≠ 0 → 4 ≤ buffer.capacity ∧
        buffer.capacity * Storable.widthOf α ≤ memory.arena.stats.used ∧
        memory.arena.stats.used ≤ (2 * buffer.capacity - 4) * Storable.widthOf α) ∧
      ∀ (action : Buffer.Action α) (next : Buffer α) (after : Memory), action.run buffer memory = (.ok next, after) →
        next.capacity ≠ buffer.capacity → ∃ place, next.place = some place ∧ memory.AtCursor place := by
  have occupies := sole.occupies sized small (Memory.create_holds sound created) (Memory.create_unused sound created)
  have used : memory.arena.stats.used = memory.arena.cursors.sum := memory.arena.used_eq_sum
  have four : Buffer.leastCapacity = 4 := rfl
  rw [used]
  refine ⟨?_, ?_, fun action next after done => (occupies.act small done).2⟩
  · intro none
    cases occupies.takes with
    | nothing _ unused => exact unused
    | some least _ _ => omega
  · intro some
    cases occupies.takes with
    | nothing none _ => exact absurd none some
    | some least lower upper => exact ⟨least, lower, upper⟩

/-- A buffer that outgrew the first region, where its old block was given back. -/
theorem sole_buffer_takes_at_most_twice_reclaimed :
    System.paged.Sound ∧ Memory.create .paged ⟨64⟩ 0 = .ok .small ∧ 0 < Storable.widthOf UInt64 ∧
      (Storable.layoutOf UInt64).align ≤ 16 ∧ ∃ (buffer : Buffer UInt64) (memory : Memory),
        buffer.Sole .small memory ∧ buffer.capacity = 8 ∧ memory.arena.stats = ⟨2, 128, 64⟩ ∧
          (8 * 8 ≤ memory.arena.stats.used ∧ memory.arena.stats.used ≤ (2 * 8 - 4) * 8) ∧
          ∀ (next : Buffer UInt64) (after : Memory), (Buffer.Action.reserve 4).run buffer memory = (.ok next, after) →
            next.capacity ≠ 8 → ∃ place, next.place = some place ∧ memory.AtCursor place := by
  let push : Buffer.Action UInt64 := .push 1
  let extend : Buffer.Action UInt64 := .extend [2, 3, 4, 5]
  have works : ((push.run .empty .small).1.toOption.bind fun first =>
      (extend.run first (push.run .empty .small).2).1.toOption.bind fun second =>
        if second.capacity = 8 ∧ (extend.run first (push.run .empty .small).2).2.arena.stats = ⟨2, 128, 64⟩
        then some () else none).isSome := by decide +kernel
  clear_value push extend
  obtain ⟨first, pushed, works⟩ := exists_ok_of_bind works
  obtain ⟨second, extended, works⟩ := exists_ok_of_bind works
  obtain ⟨capacity, stats⟩ := (Option.isSome_ite.mp works : _ ∧ _)
  have sole := (Buffer.Sole.empty.acted (Prod.ext pushed rfl)).acted (Prod.ext extended rfl)
  obtain ⟨_, bounds, exact⟩ := sole_buffer_takes_at_most_twice System.paged_sound Memory.small_created
    (by decide) (by decide) sole
  rw [capacity] at bounds exact
  exact ⟨System.paged_sound, Memory.small_created, by decide, by decide, _, _, sole, capacity, stats,
    (bounds (by decide)).2, fun next after => exact (.reserve 4) next after⟩

end ArenaLang
