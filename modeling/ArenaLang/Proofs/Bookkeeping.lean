import ArenaLang.Proofs.Levels

namespace ArenaLang

open MemoryM

/-! ## Single steps -/

def Event.ofRegions : Event → Bool
  | .arenaCreated .. | .arenaGrew .. | .blockReclaimed .. | .arenaReleased .. => true
  | _ => false

namespace Memory

inductive Step (memory : Memory) : Memory → Prop
  | allocated (layout : Layout) : Step memory (allocate layout memory).2
  | written (place : Place) (cells : List Cell) : Step memory (write place cells memory).2
  | reclaimed (place : Place) (size : Nat) : Step memory (reclaim place size memory).2
  | noted {event : Event} (other : event.ofRegions = false) : Step memory (note event memory).2

abbrev Reaches : Memory → Memory → Prop := Relation.ReflTransGen Step

theorem Reaches.invariant (start : Memory) : Invariant start.Reaches where
  allocate layout _ reached := reached.tail (.allocated layout)
  write place cells _ reached := reached.tail (.written place cells)
  reclaim place size _ reached := reached.tail (.reclaimed place size)
  bufferGrew _ _ _ _ reached := reached.tail (.noted rfl)

inductive Changes (memory : Memory) : Memory → Prop
  | silent {regions : List Region}
      (capacities : regions.map Region.capacity = memory.arena.regions.map Region.capacity) :
      Changes memory (memory.withRegions regions)
  | grew (size : Nat) (fresh : Region) :
      Changes memory { memory.withRegions (memory.arena.regions ++ [fresh]) with
        log := memory.log.push (.arenaGrew size fresh.capacity (memory.arena.regions.length + 1)) }
  | rewound {index size cursor : Nat} {region : Region} (held : memory.arena.regions[index]? = some region)
      (rewound : region.cursor = cursor + size) :
      Changes memory { memory.withRegions (memory.arena.regions.set index { region with cursor }) with
        log := memory.log.push (.blockReclaimed size cursor) }

end Memory

theorem Region.capacity_of_carve {layout : Layout} {region carved : Region} {offset : Nat}
    (done : region.carve layout = .ok (some (offset, carved))) : carved.capacity = region.capacity := by
  unfold carve at done
  grind

theorem capacities_of_firstFit {layout : Layout} {chain regions : List Region} {place : Place}
    (found : firstFit layout chain = .ok (some (place, regions))) :
    regions.map Region.capacity = chain.map Region.capacity := by
  induction chain generalizing place regions with
  | nil => cases found
  | cons region rest ih =>
      rw [firstFit] at found
      rcases carving : region.carve layout with fault | _ | ⟨offset, carved⟩
      · rw [carving] at found
        cases found
      · rw [carving] at found
        rcases search : firstFit layout rest with fault | _ | ⟨further, others⟩
        · simp only [search] at found
          cases found
        · simp only [search] at found
          cases found
        · simp only [search] at found
          cases found
          rw [List.map_cons, List.map_cons, ih search]
      · rw [carving] at found
        cases found
        rw [List.map_cons, List.map_cons, region.capacity_of_carve carving]

namespace Memory

variable {memory after start : Memory}

theorem Changes.unchanged (memory : Memory) : memory.Changes memory := .silent rfl

theorem Changes.grow (memory : Memory) (layout : Layout) : memory.Changes (MemoryM.grow layout memory).2 := by
  have first : (get : MemoryM Memory) memory = (.ok memory, memory) := rfl
  rw [MemoryM.grow, bind_ok first, layout.request?_eq]
  simp only
  rcases made : Arena.newRegion memory.arena.system memory.arena.regions.length
    (memory.arena.regionSize (layout.size + (layout.align - Region.alignment))) with refusal | fresh
  · exact .unchanged memory
  · rcases carving : fresh.carve layout with fault | _ | ⟨offset, carved⟩
    · simp only [carving]
      exact .unchanged memory
    · simp only [carving]
      exact .unchanged memory
    · simp only [carving]
      exact .grew layout.size carved

theorem Changes.allocate (memory : Memory) (layout : Layout) :
    memory.Changes (MemoryM.allocate layout memory).2 := by
  rw [MemoryM.allocate, bind_ok (regions_apply memory)]
  rcases search : firstFit layout memory.arena.regions with fault | _ | ⟨place, regions⟩
  · exact .unchanged memory
  · exact .grow memory layout
  · exact .silent (capacities_of_firstFit search)

theorem Changes.write (memory : Memory) (place : Place) (cells : List Cell) :
    memory.Changes (MemoryM.write place cells memory).2 := by
  rw [write_apply]
  apply Changes.silent
  have outlines := congrArg (List.map Region.capacity) (map_outline_modify place cells memory.arena.regions)
  rw [List.map_map, List.map_map] at outlines
  exact outlines

theorem Changes.reclaim (memory : Memory) (place : Place) (size : Nat) :
    memory.Changes (MemoryM.reclaim place size memory).2 := by
  rw [MemoryM.reclaim, bind_ok (regions_apply memory)]
  cases held : memory.arena.regions[place.region]? with
  | none => exact .unchanged memory
  | some region =>
      rcases given : region.reclaim? place.offset size with fault | _ | rewound
      · simp only [given]
        exact .unchanged memory
      · simp only [given]
        exact .unchanged memory
      · simp only [given]
        obtain ⟨enough, rfl⟩ := Region.eq_of_reclaim? given
        exact .rewound held (Nat.sub_add_cancel enough).symm

end Memory

/-! ## The history of the regions -/

def Event.addition? : Event → Option (Nat × Nat)
  | .arenaGrew _ capacity regions => some (capacity, regions)
  | _ => none

def Event.isCreation : Event → Bool
  | .arenaCreated _ => true
  | _ => false

theorem Event.of_not_ofRegions {event : Event} (other : event.ofRegions = false) :
    event.isCreation = false ∧ event.addition? = none ∧ ∀ size cursor, event ≠ .blockReclaimed size cursor := by
  cases event <;> simp [ofRegions, isCreation, addition?] at other ⊢

def Log.additions (log : Log) : List (Nat × Nat) := log.toList.filterMap Event.addition?

theorem Log.additions_push (log : Log) (event : Event) :
    Log.additions (log.push event) = log.additions ++ event.addition?.toList := by
  rw [additions, Array.toList_push, List.filterMap_append]
  rfl

namespace Memory

/-- Whether the log of a memory says what regions there are. -/
structure Accounts (memory : Memory) : Prop where
  created : ∃ capacity events, memory.log.toList = .arenaCreated capacity :: events ∧
    (∀ event ∈ events, event.isCreation = false) ∧
    memory.arena.stats.capacity = capacity + (memory.log.additions.map Prod.fst).sum
  regions : memory.arena.stats.regions = 1 + memory.log.additions.length
  counts : memory.log.additions.map Prod.snd = List.range' 2 memory.log.additions.length

variable {memory after start : Memory}

theorem Accounts.silent (accounts : memory.Accounts) {regions : List Region}
    (capacities : regions.map Region.capacity = memory.arena.regions.map Region.capacity) :
    (memory.withRegions regions).Accounts := by
  obtain ⟨capacity, events, logged, others, total⟩ := accounts.created
  refine ⟨⟨capacity, events, logged, others, ?_⟩, ?_, accounts.counts⟩
  · rw [Arena.capacity_eq_sum] at total ⊢
    exact (congrArg List.sum capacities).trans total
  · have lengths := congrArg List.length capacities
    rw [List.length_map, List.length_map] at lengths
    exact lengths.trans accounts.regions

theorem Accounts.push (accounts : memory.Accounts) {event : Event} (log : after.log = memory.log.push event)
    (later : event.isCreation = false)
    (capacities : after.arena.regions.map Region.capacity =
      memory.arena.regions.map Region.capacity ++ event.addition?.toList.map Prod.fst)
    (counts : event.addition?.toList.map Prod.snd =
      List.range' (memory.arena.regions.length + 1) event.addition?.toList.length) : after.Accounts := by
  obtain ⟨capacity, events, logged, others, total⟩ := accounts.created
  have count : memory.arena.regions.length = 1 + memory.log.additions.length := accounts.regions
  have additions := memory.log.additions_push event
  refine ⟨⟨capacity, events ++ [event], ?_, ?_, ?_⟩, ?_, ?_⟩
  · rw [log, Array.toList_push, logged, List.cons_append]
  · intro other member
    rcases List.mem_append.mp member with before | new
    · exact others other before
    · exact List.mem_singleton.mp new ▸ later
  · rw [Arena.capacity_eq_sum] at total ⊢
    rw [log, additions, capacities, List.sum_append, List.map_append, List.sum_append, total, Nat.add_assoc]
  · have lengths := congrArg List.length capacities
    rw [List.length_append, List.length_map, List.length_map, List.length_map] at lengths
    rw [log, additions, List.length_append]
    simp only [Arena.stats]
    omega
  · rw [log, additions, List.map_append, accounts.counts, counts, List.length_append, count,
      ← List.range'_append_1, Nat.add_right_comm]

theorem Accounts.change (accounts : memory.Accounts) (changes : memory.Changes after) : after.Accounts := by
  cases changes with
  | silent capacities => exact accounts.silent capacities
  | grew size fresh => exact accounts.push rfl rfl List.map_append rfl
  | @rewound index size cursor region held _ =>
      have kept : (memory.arena.regions.set index { region with cursor }).map Region.capacity =
          memory.arena.regions.map Region.capacity := map_set_of_eq held rfl
      exact accounts.push rfl rfl (kept.trans (List.append_nil _).symm) rfl

theorem Accounts.step (accounts : memory.Accounts) (step : memory.Step after) : after.Accounts := by
  cases step with
  | allocated layout => exact accounts.change (.allocate memory layout)
  | written place cells => exact accounts.change (.write memory place cells)
  | reclaimed place size => exact accounts.change (.reclaim memory place size)
  | @noted event other =>
      obtain ⟨later, none, _⟩ := Event.of_not_ofRegions other
      refine accounts.push rfl later ?_ ?_
      · rw [none]
        exact (List.append_nil _).symm
      · rw [none]
        rfl

theorem Reaches.accounts {system : System} {options : Options} {request : Nat}
    (created : create system options request = .ok start) (reached : start.Reaches memory) : memory.Accounts := by
  induction reached with
  | refl =>
      obtain ⟨base, _, rfl⟩ := eq_of_create created
      exact ⟨⟨_, [], rfl, by simp, rfl⟩, rfl, rfl⟩
  | tail _ step ih => exact ih.step step

/-! ## Blocks given back -/

/-- A step that gives a block back: the cursor of its region goes back by the size of the block, and
so does what is in use. -/
structure Rewinds (before : Memory) (size cursor : Nat) (after : Memory) : Prop where
  step : before.Step after
  region : ∃ index region, before.arena.regions[index]? = some region ∧ region.cursor = cursor + size ∧
    after.arena.regions = before.arena.regions.set index { region with cursor }
  used : before.arena.stats.used = after.arena.stats.used + size
  log : after.log = before.log.push (.blockReclaimed size cursor)

theorem used_set {index size cursor : Nat} {region : Region} (held : memory.arena.regions[index]? = some region)
    (rewound : region.cursor = cursor + size) :
    memory.arena.stats.used =
      (memory.withRegions (memory.arena.regions.set index { region with cursor })).arena.stats.used + size := by
  have sums := sum_set_add (Arena.getElem?_cursors held) cursor
  rw [Arena.used_eq_sum, Arena.used_eq_sum, withRegions, List.map_set]
  simp only [Arena.cursors] at sums ⊢
  omega

theorem Changes.logs (changes : memory.Changes after) (step : memory.Step after) :
    after.log = memory.log ∨ ∃ event, after.log = memory.log.push event ∧
      ∀ size cursor, event = .blockReclaimed size cursor → memory.Rewinds size cursor after := by
  cases changes with
  | silent => exact .inl rfl
  | grew size fresh => exact .inr ⟨_, rfl, by simp⟩
  | @rewound index size cursor region held rewound =>
      refine .inr ⟨_, rfl, ?_⟩
      rintro _ _ ⟨⟩
      exact ⟨step, ⟨index, region, held, rewound, rfl⟩, used_set held rewound, rfl⟩

theorem Step.logs (step : memory.Step after) :
    after.log = memory.log ∨ ∃ event, after.log = memory.log.push event ∧
      ∀ size cursor, event = .blockReclaimed size cursor → memory.Rewinds size cursor after := by
  cases step with
  | allocated layout => exact (Changes.allocate memory layout).logs (.allocated layout)
  | written place cells => exact (Changes.write memory place cells).logs (.written place cells)
  | reclaimed place size => exact (Changes.reclaim memory place size).logs (.reclaimed place size)
  | noted other =>
      obtain ⟨_, _, otherwise⟩ := Event.of_not_ofRegions other
      exact .inr ⟨_, rfl, fun size cursor same => absurd same (otherwise size cursor)⟩

theorem Reaches.getElem?_log (reached : start.Reaches memory) {position : Nat} (before : position < start.log.size) :
    position < memory.log.size ∧ memory.log[position]? = start.log[position]? := by
  induction reached with
  | refl => exact ⟨before, rfl⟩
  | tail _ step ih =>
      obtain ⟨inside, same⟩ := ih
      obtain log | ⟨event, log, _⟩ := step.logs
      · rw [log]
        exact ⟨inside, same⟩
      · rw [log, Array.size_push, Array.getElem?_push_lt inside, ← same]
        exact ⟨Nat.lt_succ_of_lt inside, (Array.getElem?_eq_getElem inside).symm⟩

theorem Reaches.rewinds (reached : start.Reaches memory) {position size cursor : Nat}
    (later : start.log.size ≤ position) (logged : memory.log[position]? = some (.blockReclaimed size cursor)) :
    ∃ before after, start.Reaches before ∧ before.log.size = position ∧ before.Rewinds size cursor after ∧
      after.Reaches memory := by
  induction reached with
  | refl =>
      rw [Array.getElem?_eq_none later] at logged
      cases logged
  | @tail middle last reached step ih =>
      have earlier (logged : middle.log[position]? = some (.blockReclaimed size cursor)) :
          ∃ before after, start.Reaches before ∧ before.log.size = position ∧ before.Rewinds size cursor after ∧
            after.Reaches last := by
        obtain ⟨before, after, first, count, rewinds, rest⟩ := ih logged
        exact ⟨before, after, first, count, rewinds, rest.tail step⟩
      obtain log | ⟨event, log, rewinding⟩ := step.logs
      · exact earlier (log ▸ logged)
      · rw [log, Array.getElem?_push] at logged
        split at logged
        · rename_i position
          exact ⟨middle, last, reached, position.symm, rewinding size cursor (Option.some.inj logged), .refl⟩
        · exact earlier logged

end Memory

end ArenaLang
