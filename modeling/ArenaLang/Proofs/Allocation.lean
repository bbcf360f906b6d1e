import ArenaLang.Proofs.Carving

namespace ArenaLang

namespace MemoryM

variable {α β : Type}

@[simp] theorem pure_apply (a : α) (memory : Memory) : (pure a : MemoryM α) memory = (.ok a, memory) := rfl

theorem bind_apply (step : MemoryM α) (next : α → MemoryM β) (memory : Memory) :
    (step >>= next) memory =
      match step memory with
      | (.ok a, after) => next a after
      | (.error failure, after) => (.error failure, after) := by
  simp only [bind, ExceptT.bind, ExceptT.mk, StateT.bind]
  rcases step memory with ⟨_ | _, _⟩ <;> rfl

theorem bind_ok {step : MemoryM α} {memory after : Memory} {a : α} (done : step memory = (.ok a, after))
    (next : α → MemoryM β) : (step >>= next) memory = next a after := by
  rw [bind_apply, done]

theorem bind_error {step : MemoryM α} {memory after : Memory} {failure : Failure}
    (failed : step memory = (.error failure, after)) (next : α → MemoryM β) :
    (step >>= next) memory = (.error failure, after) := by
  rw [bind_apply, failed]

theorem bind_done {step : MemoryM α} {next : α → MemoryM β} {memory after : Memory} {b : β}
    (done : (step >>= next) memory = (.ok b, after)) :
    ∃ a middle, step memory = (.ok a, middle) ∧ next a middle = (.ok b, after) := by
  rcases stepped : step memory with ⟨failure | a, middle⟩
  · rw [bind_error stepped] at done
    cases done
  · rw [bind_ok stepped] at done
    exact ⟨a, middle, rfl, done⟩

@[simp] theorem refuse_apply (refusal : Refusal) (memory : Memory) :
    (refuse refusal : MemoryM α) memory = (.error (.refused refusal), memory) := rfl

@[simp] theorem note_apply (event : Event) (memory : Memory) :
    note event memory = (.ok (), { memory with log := memory.log.push event }) := rfl

@[simp] theorem regions_apply (memory : Memory) :
    regions memory = (.ok memory.arena.regions, memory) := rfl

end MemoryM

def Memory.withRegions (regions : List Region) (memory : Memory) : Memory :=
  { memory with arena := { memory.arena with regions } }

@[simp] theorem MemoryM.setRegions_apply (regions : List Region) (memory : Memory) :
    setRegions regions memory = (.ok (), memory.withRegions regions) := rfl

def Region.extent (region : Region) : Nat × Nat := (region.base, region.capacity)

def Event.ofArena : Event → Bool
  | .arenaGrew .. | .blockReclaimed .. | .bufferGrew .. => true
  | _ => false

namespace Memory

structure Evolves (before after : Memory) : Prop where
  system : after.arena.system = before.arena.system
  options : after.arena.options = before.arena.options
  chain : before.arena.regions.map Region.extent <+: after.arena.regions.map Region.extent
  logged : ∃ events, (∀ event ∈ events, event.ofArena) ∧
    after.log.toList = before.log.toList ++ events

theorem Evolves.refl (memory : Memory) : memory.Evolves memory :=
  ⟨rfl, rfl, List.prefix_rfl, [], by simp, by simp⟩

theorem Evolves.trans {first second third : Memory} (one : first.Evolves second)
    (two : second.Evolves third) : first.Evolves third := by
  obtain ⟨events, ours, log⟩ := one.logged
  obtain ⟨others, theirs, logged⟩ := two.logged
  refine ⟨two.system.trans one.system, two.options.trans one.options, one.chain.trans two.chain,
    events ++ others, ?_, ?_⟩
  · intro event member
    cases List.mem_append.mp member with
    | inl member => exact ours event member
    | inr member => exact theirs event member
  · rw [logged, log, List.append_assoc]

theorem Evolves.withRegions {memory : Memory} {regions : List Region}
    (chain : memory.arena.regions.map Region.extent <+: regions.map Region.extent) :
    memory.Evolves (memory.withRegions regions) :=
  ⟨rfl, rfl, chain, [], by simp, by simp [Memory.withRegions]⟩

theorem Evolves.note {memory : Memory} {event : Event} (ours : event.ofArena) :
    memory.Evolves { memory with log := memory.log.push event } :=
  ⟨rfl, rfl, List.prefix_rfl, [event], by simpa using ours, by simp⟩

end Memory

/-- The system's promise: regions start at multiples of sixteen and lie in the address space. -/
def System.Sound (system : System) : Prop :=
  ∀ before capacity base, system.place? before capacity = some base →
    Region.alignment ∣ base ∧ base + capacity < Word.limit

theorem System.paged_sound : paged.Sound := by
  intro before capacity base placed
  change (if capacity < refusedFrom then some pageSize else none) = some base at placed
  by_cases small : capacity < refusedFrom
  · rw [if_pos small, Option.some.injEq] at placed
    subst placed
    simp only [refusedFrom, pageSize, Region.alignment, Word.limit] at small ⊢
    omega
  · rw [if_neg small] at placed
    cases placed

/-- Regions lie further apart than any of them is long. -/
def System.spaced : System :=
  ⟨fun before capacity =>
    if before < refusedFrom ∧ capacity < refusedFrom then some ((before + 1) * refusedFrom) else none⟩

theorem System.spaced_sound : spaced.Sound := by
  intro before capacity base placed
  change (if before < refusedFrom ∧ capacity < refusedFrom then some ((before + 1) * refusedFrom) else none) =
    some base at placed
  split at placed
  · rename_i small
    cases placed
    simp only [refusedFrom, Region.alignment, Word.limit] at small ⊢
    omega
  · cases placed

structure Memory.Sound (memory : Memory) : Prop where
  system : memory.arena.system.Sound
  regions : ∀ region ∈ memory.arena.regions, region.Sound

theorem Arena.newRegion_sound {system : System} (sound : system.Sound) {before capacity : Nat}
    {region : Region} (made : newRegion system before capacity = .ok region) :
    region.Sound ∧ region.cursor = 0 := by
  unfold newRegion at made
  split at made
  · cases made
  · split at made
    · cases made
    · rename_i placed
      cases made
      obtain ⟨aligned, inSpace⟩ := sound _ _ _ placed
      exact ⟨.fresh aligned inSpace, rfl⟩

inductive FirstFit (layout : Layout) (chain : List Region) : Option (Place × List Region) → Prop
  | found {index : Nat} {region : Region} (held : chain[index]? = some region)
      (fits : region.Fits layout)
      (first : ∀ earlier < index, ∀ other, chain[earlier]? = some other → ¬other.Fits layout) :
      FirstFit layout chain
        (some (⟨index, region.nextOffset layout⟩, chain.set index (region.carved layout)))
  | full (full : ∀ region ∈ chain, ¬region.Fits layout) : FirstFit layout chain none

theorem firstFit_outcome (layout : Layout) {chain : List Region} (sound : ∀ region ∈ chain, region.Sound) :
    ∃ result, firstFit layout chain = .ok result ∧ FirstFit layout chain result := by
  induction chain with
  | nil => exact ⟨none, rfl, .full (by simp)⟩
  | cons region rest ih =>
      have carve := region.carve_eq (sound region List.mem_cons_self) layout
      by_cases fits : region.Fits layout
      · refine ⟨some (⟨0, region.nextOffset layout⟩, region.carved layout :: rest), ?_, ?_⟩
        · simp only [firstFit, carve, if_pos fits]
        · exact @FirstFit.found layout (region :: rest) 0 region rfl fits (by simp)
      · obtain ⟨result, tail, outcome⟩ := ih fun other member => sound other (List.mem_cons_of_mem _ member)
        cases outcome with
        | @found index other held room first =>
            refine ⟨some (⟨index + 1, other.nextOffset layout⟩,
              region :: rest.set index (other.carved layout)), ?_, ?_⟩
            · simp only [firstFit, carve, if_neg fits, tail, Place.next]
            · refine @FirstFit.found layout (region :: rest) (index + 1) other held room ?_
              intro earlier before third found
              cases earlier with
              | zero => cases found; exact fits
              | succ earlier => exact first earlier (by omega) third found
        | full full =>
            refine ⟨none, ?_, .full ?_⟩
            · simp only [firstFit, carve, if_neg fits, tail]
            · intro other member
              cases List.mem_cons.mp member with
              | inl same => exact same ▸ fits
              | inr member => exact full other member

namespace Memory

inductive Allocates (memory : Memory) (layout : Layout) : Except Failure Place × Memory → Prop
  | carved {index : Nat} {region : Region} (held : memory.arena.regions[index]? = some region)
      (fits : region.Fits layout)
      (first : ∀ earlier < index, ∀ other, memory.arena.regions[earlier]? = some other →
        ¬other.Fits layout) :
      Allocates memory layout (.ok ⟨index, region.nextOffset layout⟩,
        memory.withRegions (memory.arena.regions.set index (region.carved layout)))
  | grown {fresh : Region} {request : Nat}
      (full : ∀ region ∈ memory.arena.regions, ¬region.Fits layout)
      (requested : layout.request? = some request)
      (made : Arena.newRegion memory.arena.system memory.arena.regions.length
        (memory.arena.regionSize request) = .ok fresh)
      (fits : fresh.Fits layout) :
      Allocates memory layout (.ok ⟨memory.arena.regions.length, fresh.nextOffset layout⟩,
        { memory.withRegions (memory.arena.regions ++ [fresh.carved layout]) with
          log := memory.log.push
            (.arenaGrew layout.size fresh.capacity (memory.arena.regions.length + 1)) })
  | refused {refusal : Refusal} (full : ∀ region ∈ memory.arena.regions, ¬region.Fits layout) :
      Allocates memory layout (.error (.refused refusal), memory)

theorem grow_outcome {memory : Memory} (sound : memory.Sound) {layout : Layout}
    (full : ∀ region ∈ memory.arena.regions, ¬region.Fits layout) :
    memory.Allocates layout (MemoryM.grow layout memory) := by
  have start : (get : MemoryM Memory) memory = (.ok memory, memory) := rfl
  rw [MemoryM.grow, MemoryM.bind_ok start]
  cases requested : layout.request? with
  | none => exact .refused full
  | some request =>
      cases made : Arena.newRegion memory.arena.system memory.arena.regions.length
          (memory.arena.regionSize request) with
      | error refusal =>
          simp only [made, MemoryM.refuse_apply]
          exact .refused full
      | ok fresh =>
          have carve := fresh.carve_eq (Arena.newRegion_sound sound.system made).1 layout
          by_cases fits : fresh.Fits layout
          · simp only [made, carve, if_pos fits]
            exact .grown full requested made fits
          · simp only [made, carve, if_neg fits]
            exact .refused full

theorem allocate_outcome {memory : Memory} (sound : memory.Sound) (layout : Layout) :
    memory.Allocates layout (MemoryM.allocate layout memory) := by
  obtain ⟨result, search, outcome⟩ := firstFit_outcome layout sound.regions
  rw [MemoryM.allocate, MemoryM.bind_ok (MemoryM.regions_apply memory), search]
  cases outcome with
  | found held fits first => exact .carved held fits first
  | full full => exact grow_outcome sound full

end Memory

end ArenaLang
