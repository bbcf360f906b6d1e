import ArenaLang.Proofs.Invariants

namespace ArenaLang

open MemoryM

/-! ## New regions -/

/-- Where the system puts a region. It is asked for a layout, so a capacity that is none it refuses. -/
def System.provides? (system : System) (before capacity : Nat) : Option Nat :=
  (Layout.of? capacity Region.alignment).bind fun layout => system.place? before layout.size

def Options.growth (options : Options) (layout : Layout) : Nat :=
  max 1 (max options.regionCapacity (layout.size + (layout.align - Region.alignment)))

def Refusal.ofCapacity (capacity : Nat) : Refusal :=
  if capacity + Region.alignment ≤ Layout.bound then .outOfMemory capacity else .tooLarge capacity

theorem Region.alignment_powerOfTwo : alignment.isPowerOfTwo := ⟨4, rfl⟩

theorem System.provides?_of_le (system : System) (before : Nat) {capacity : Nat}
    (bounded : capacity + Region.alignment ≤ Layout.bound) :
    system.provides? before capacity = system.place? before capacity := by
  rw [provides?, Layout.of?, dif_pos ⟨Region.alignment_powerOfTwo, bounded⟩]
  rfl

theorem System.provides?_of_lt (system : System) (before : Nat) {capacity : Nat}
    (large : Layout.bound < capacity + Region.alignment) : system.provides? before capacity = none := by
  rw [provides?, Layout.of?, dif_neg fun small => Nat.not_lt.mpr small.2 large]
  rfl

theorem Refusal.ofCapacity_of_none {capacity : Nat} (none : Layout.of? capacity Region.alignment = none) :
    ofCapacity capacity = .tooLarge capacity := by
  apply if_neg
  intro bounded
  rw [Layout.of?, dif_pos ⟨Region.alignment_powerOfTwo, bounded⟩] at none
  cases none

theorem Refusal.ofCapacity_of_some {capacity : Nat} {whole : Layout}
    (found : Layout.of? capacity Region.alignment = some whole) : ofCapacity capacity = .outOfMemory capacity := by
  obtain ⟨size, align⟩ := Layout.of?_eq_some_iff.mp found
  have bounded := whole.bounded
  rw [size, align] at bounded
  exact if_pos bounded

theorem System.provides?_sound {system : System} (sound : system.Sound) {before capacity base : Nat}
    (provided : system.provides? before capacity = some base) : (Region.fresh base capacity).Sound := by
  by_cases bounded : capacity + Region.alignment ≤ Layout.bound
  · rw [provides?_of_le system before bounded] at provided
    obtain ⟨aligned, inSpace⟩ := sound _ _ _ provided
    exact .fresh aligned inSpace
  · rw [provides?_of_lt system before (Nat.not_le.mp bounded)] at provided
    cases provided

theorem Arena.newRegion_eq (system : System) (before capacity : Nat) :
    newRegion system before capacity =
      match system.provides? before (max capacity 1) with
      | some base => .ok (.fresh base (max capacity 1))
      | none => .error (.ofCapacity (max capacity 1)) := by
  by_cases bounded : max capacity 1 + Region.alignment ≤ Layout.bound
  · rw [System.provides?_of_le system before bounded, newRegion, Layout.of?,
      dif_pos ⟨Region.alignment_powerOfTwo, bounded⟩]
    cases placed : system.place? before (max capacity 1) with
    | none => simp only [placed, Refusal.ofCapacity, if_pos bounded]
    | some base => simp only [placed]
  · rw [System.provides?_of_lt system before (Nat.not_le.mp bounded), newRegion, Layout.of?,
      dif_neg fun small => bounded small.2]
    have few : 1 + Region.alignment ≤ Layout.bound := by decide
    have whole : max capacity 1 = capacity := by omega
    rw [whole] at bounded ⊢
    rw [Refusal.ofCapacity, if_neg bounded]

theorem Layout.request?_eq (layout : Layout) :
    layout.request? = some (layout.size + (layout.align - Region.alignment)) := by
  have bounded := layout.bounded
  have word : layout.size + (layout.align - Region.alignment) < Word.limit := by
    simp only [bound, Word.limit] at bounded ⊢
    omega
  rw [request?, Word.add?, if_pos word]

theorem Arena.newRegion_request (arena : Arena) (before : Nat) (layout : Layout) :
    newRegion arena.system before
        (arena.regionSize (layout.size + (layout.align - Region.alignment))) =
      match arena.system.provides? before (arena.options.growth layout) with
      | some base => .ok (.fresh base (arena.options.growth layout))
      | none => .error (.ofCapacity (arena.options.growth layout)) := by
  have same : max (arena.regionSize (layout.size + (layout.align - Region.alignment))) 1 =
      arena.options.growth layout := by
    unfold regionSize Options.growth
    omega
  rw [newRegion_eq, same]

theorem Layout.align_dvd_or (layout : Layout) :
    layout.align ∣ Region.alignment ∨ Region.alignment ∣ layout.align := by
  obtain ⟨exponent, power⟩ := layout.powerOfTwo
  have sixteen : Region.alignment = 2 ^ 4 := rfl
  rw [power, sixteen]
  by_cases small : exponent ≤ 4
  · exact .inl (Nat.pow_dvd_pow 2 small)
  · exact .inr (Nat.pow_dvd_pow 2 (by omega))

theorem Region.nextOffset_fresh_le {base : Nat} (aligned : alignment ∣ base) (capacity : Nat) (layout : Layout) :
    (fresh base capacity).nextOffset layout ≤ layout.align - alignment := by
  rcases layout.align_dvd_or with low | high
  · have multiple : layout.align ∣ (fresh base capacity).base + 0 := Nat.dvd_trans low aligned
    have first := nextOffset_le (Nat.le_refl 0) multiple
    omega
  · -- All three are multiples of sixteen, so what is less than `align` leaves sixteen below it.
    have rounded : alignment ∣ Word.roundUp base layout.align := Nat.dvd_trans high (Word.dvd_roundUp _ _)
    have below := Word.roundUp_lt base layout.align_pos
    have offset : (fresh base capacity).nextOffset layout = Word.roundUp base layout.align - base := rfl
    have positive := layout.align_pos
    unfold alignment at *
    omega

/-- The region added for a block has room for it, wherever it lies. -/
theorem Options.growth_fits (options : Options) (layout : Layout) {base : Nat} (aligned : Region.alignment ∣ base) :
    (Region.fresh base (options.growth layout)).Fits layout := by
  have first := Region.nextOffset_fresh_le aligned (options.growth layout) layout
  have enough : layout.size + (layout.align - Region.alignment) ≤ options.growth layout := by
    unfold growth
    omega
  have capacity : (Region.fresh base (options.growth layout)).capacity = options.growth layout := rfl
  unfold Region.Fits
  omega

/-! ## Growing -/

namespace Memory

variable {memory : Memory} {layout : Layout}

def Full (memory : Memory) (layout : Layout) : Prop := ∀ region ∈ memory.arena.regions, ¬region.Fits layout

theorem full_or_room (memory : Memory) (layout : Layout) :
    memory.Full layout ∨ ∃ region ∈ memory.arena.regions, region.Fits layout := by
  by_cases room : ∃ region ∈ memory.arena.regions, region.Fits layout
  · exact .inr room
  · exact .inl fun region member fits => room ⟨region, member, fits⟩

def added (memory : Memory) (layout : Layout) (fresh : Region) : Memory :=
  { memory.withRegions (memory.arena.regions ++ [fresh.carved layout]) with
    log := memory.log.push (.arenaGrew layout.size fresh.capacity (memory.arena.regions.length + 1)) }

theorem grow_of_provided (sound : memory.Sound) {base : Nat}
    (provided : memory.arena.system.provides? memory.arena.regions.length (memory.arena.options.growth layout) =
      some base) :
    grow layout memory =
      (.ok ⟨memory.arena.regions.length, (Region.fresh base (memory.arena.options.growth layout)).nextOffset layout⟩,
        memory.added layout (.fresh base (memory.arena.options.growth layout))) := by
  have made := memory.arena.newRegion_request memory.arena.regions.length layout
  rw [provided] at made
  have fresh := System.provides?_sound sound.system provided
  -- `growth` allows for the padding that the worst base could need, so the fresh region has room.
  have fits : (Region.fresh base (memory.arena.options.growth layout)).Fits layout :=
    memory.arena.options.growth_fits layout fresh.aligned
  have start : (get : MemoryM Memory) memory = (.ok memory, memory) := rfl
  rw [grow, bind_ok start, layout.request?_eq]
  simp only [made, Region.carve_eq fresh layout, if_pos fits]
  rfl

theorem grow_of_refused
    (refused : memory.arena.system.provides? memory.arena.regions.length (memory.arena.options.growth layout) = none) :
    grow layout memory = (.error (.refused (.ofCapacity (memory.arena.options.growth layout))), memory) := by
  have made := memory.arena.newRegion_request memory.arena.regions.length layout
  rw [refused] at made
  have start : (get : MemoryM Memory) memory = (.ok memory, memory) := rfl
  rw [grow, bind_ok start, layout.request?_eq]
  simp only [made, refuse_apply]

theorem allocate_of_full (sound : memory.Sound) (full : memory.Full layout) :
    allocate layout memory = grow layout memory := by
  obtain ⟨result, search, outcome⟩ := firstFit_outcome layout sound.regions
  rw [allocate, bind_ok (regions_apply memory), search]
  cases outcome with
  | found held fits _ => exact absurd fits (full _ (List.mem_of_getElem? held))
  | full _ => rfl

theorem allocate_of_first (sound : memory.Sound) {index : Nat} {region : Region}
    (held : memory.arena.regions[index]? = some region) (fits : region.Fits layout)
    (first : ∀ earlier < index, ∀ other, memory.arena.regions[earlier]? = some other → ¬other.Fits layout) :
    allocate layout memory = (.ok ⟨index, region.nextOffset layout⟩,
      memory.withRegions (memory.arena.regions.set index (region.carved layout))) := by
  obtain ⟨result, search, outcome⟩ := firstFit_outcome layout sound.regions
  rw [allocate, bind_ok (regions_apply memory), search]
  cases outcome with
  | @found found other here room lowest =>
      rcases Nat.lt_trichotomy found index with before | rfl | behind
      · exact absurd room (first found before other here)
      · rw [held, Option.some.injEq] at here
        subst here
        rfl
      · exact absurd fits (lowest index behind region held)
  | full full => exact absurd fits (full region (List.mem_of_getElem? held))

theorem allocate_of_room (sound : memory.Sound) (room : ∃ region ∈ memory.arena.regions, region.Fits layout) :
    ∃ index region, memory.arena.regions[index]? = some region ∧ region.Fits layout ∧
      (∀ earlier < index, ∀ other, memory.arena.regions[earlier]? = some other → ¬other.Fits layout) ∧
      allocate layout memory = (.ok ⟨index, region.nextOffset layout⟩,
        memory.withRegions (memory.arena.regions.set index (region.carved layout))) := by
  obtain ⟨region, member, fits⟩ := room
  have outcome := allocate_outcome sound layout
  generalize allocate layout memory = result at outcome ⊢
  cases outcome with
  | @carved index other held room first => exact ⟨index, other, held, room, first, rfl⟩
  | grown full _ _ _ => exact absurd fits (full region member)
  | refused full => exact absurd fits (full region member)

end Memory

/-! ## Where regions come from -/

namespace Region

theorem eq_of_rewind {size : Nat} {region rewound : Region} (given : region.rewind size = .ok rewound) :
    size ≤ region.cursor ∧ rewound = { region with cursor := region.cursor - size } := by
  unfold rewind at given
  split at given
  · cases given
  · rename_i enough
    cases given
    exact ⟨Nat.not_lt.mp enough, rfl⟩

theorem eq_of_reclaim? {offset size : Nat} {region rewound : Region}
    (given : region.reclaim? offset size = .ok (some rewound)) :
    size ≤ region.cursor ∧ rewound = { region with cursor := region.cursor - size } := by
  simp only [reclaim?, bind, Except.bind, pure, Except.pure] at given
  rcases contained : region.contains offset with fault | _ | _ <;> simp only [contained] at given
  · cases given
  · cases given
  · rcases last : region.endsAtCursor offset size with fault | _ | _ <;> simp only [last] at given
    · cases given
    · cases given
    · cases done : region.rewind size with
      | error fault => simp [done] at given
      | ok region =>
          simp only [done, if_true, Except.ok.injEq, Option.some.injEq] at given
          exact given ▸ eq_of_rewind done

end Region

theorem Memory.eq_of_create {system : System} {options : Options} {request : Nat} {memory : Memory}
    (created : create system options request = .ok memory) :
    ∃ base, system.provides? 0 (max (max request options.regionCapacity) 1) = some base ∧
      memory = ⟨⟨system, options, [.fresh base (max (max request options.regionCapacity) 1)]⟩,
        #[.arenaCreated (max (max request options.regionCapacity) 1)]⟩ := by
  unfold create at created
  simp only [bind, Except.bind] at created
  rw [Arena.newRegion_eq] at created
  cases placed : system.provides? 0 (max (max request options.regionCapacity) 1) with
  | none =>
      simp only [Arena.regionSize, placed] at created
      cases created
  | some base =>
      simp only [Arena.regionSize, placed] at created
      cases created
      exact ⟨base, rfl, rfl⟩

/-- A sound memory with the system and the options it was created with, and no region but those
that the system provided. -/
structure Memory.Provided (system : System) (options : Options) (memory : Memory) : Prop where
  sound : memory.Sound
  fromSystem : memory.arena.system = system
  withOptions : memory.arena.options = options
  regions : ∀ region ∈ memory.arena.regions, ∃ before base, system.provides? before region.capacity = some base

namespace Memory.Provided

variable {system : System} {options : Options} {memory : Memory}

theorem set {index : Nat} {region other : Region} (provided : memory.Provided system options)
    (held : memory.arena.regions[index]? = some region) (sound : other.Sound)
    (same : other.capacity = region.capacity) :
    (memory.withRegions (memory.arena.regions.set index other)).Provided system options := by
  refine ⟨⟨provided.sound.system, ?_⟩, provided.fromSystem, provided.withOptions, ?_⟩
  · intro third member
    rcases List.mem_or_eq_of_mem_set member with before | rfl
    · exact provided.sound.regions third before
    · exact sound
  · intro third member
    rcases List.mem_or_eq_of_mem_set member with before | rfl
    · exact provided.regions third before
    · exact same ▸ provided.regions region (List.mem_of_getElem? held)

theorem noted (provided : memory.Provided system options) (log : Log) :
    Memory.Provided system options { memory with log } :=
  ⟨⟨provided.sound.system, provided.sound.regions⟩, provided.fromSystem, provided.withOptions, provided.regions⟩

theorem added (provided : memory.Provided system options) {layout : Layout} {base : Nat}
    (placed : system.provides? memory.arena.regions.length (options.growth layout) = some base) :
    (memory.added layout (.fresh base (options.growth layout))).Provided system options := by
  have promise : system.Sound := provided.fromSystem ▸ provided.sound.system
  have fresh := System.provides?_sound promise placed
  have sound := fresh.carved (options.growth_fits layout fresh.aligned)
  refine ⟨⟨provided.sound.system, ?_⟩, provided.fromSystem, provided.withOptions, ?_⟩
  · intro region member
    rcases List.mem_append.mp member with before | last
    · exact provided.sound.regions region before
    · exact List.mem_singleton.mp last ▸ sound
  · intro region member
    rcases List.mem_append.mp member with before | last
    · exact provided.regions region before
    · rw [List.mem_singleton.mp last]
      exact ⟨_, base, placed⟩

theorem created {request : Nat} (sound : system.Sound) (created : create system options request = .ok memory) :
    memory.Provided system options := by
  obtain ⟨base, placed, rfl⟩ := eq_of_create created
  refine ⟨⟨sound, ?_⟩, rfl, rfl, ?_⟩
  · intro region member
    rw [List.mem_singleton.mp member]
    exact System.provides?_sound sound placed
  · intro region member
    rw [List.mem_singleton.mp member]
    exact ⟨0, base, placed⟩

theorem allocate (provided : memory.Provided system options) (layout : Layout) :
    (MemoryM.allocate layout memory).2.Provided system options := by
  have sound := provided.sound
  rcases memory.full_or_room layout with full | room
  · rw [allocate_of_full sound full]
    cases placed : memory.arena.system.provides? memory.arena.regions.length (memory.arena.options.growth layout) with
    | none =>
        rw [grow_of_refused placed]
        exact provided
    | some base =>
        rw [grow_of_provided sound placed]
        rw [provided.fromSystem, provided.withOptions] at placed
        rw [provided.withOptions]
        exact provided.added placed
  · obtain ⟨index, region, held, fits, _, carved⟩ := allocate_of_room sound room
    rw [carved]
    exact provided.set held ((sound.regions region (List.mem_of_getElem? held)).carved fits) rfl

theorem write (provided : memory.Provided system options) (place : Place) (cells : List Cell) :
    (MemoryM.write place cells memory).2.Provided system options := by
  rw [write_apply]
  cases held : memory.arena.regions[place.region]? with
  | none =>
      rw [List.modify_eq_self (List.getElem?_eq_none_iff.mp held)]
      exact provided
  | some region =>
      rw [modify_eq_set _ held]
      exact provided.set held ((provided.sound.regions region (List.mem_of_getElem? held)).write _ _) rfl

theorem reclaim (provided : memory.Provided system options) (place : Place) (size : Nat) :
    (MemoryM.reclaim place size memory).2.Provided system options := by
  rw [MemoryM.reclaim, bind_ok (regions_apply memory)]
  cases held : memory.arena.regions[place.region]? with
  | none => exact provided
  | some region =>
      rcases given : region.reclaim? place.offset size with fault | _ | rewound
      · simp only [given]
        exact provided
      · simp only [given]
        exact provided
      · simp only [given]
        have sound := provided.sound.regions region (List.mem_of_getElem? held)
        rw [(Region.eq_of_reclaim? given).2]
        have rewound : { region with cursor := region.cursor - size : Region }.Sound :=
          ⟨sound.aligned, sound.inSpace, Nat.le_trans (Nat.sub_le _ _) sound.filled⟩
        exact (provided.set held rewound rfl).noted _

end Memory.Provided

theorem Memory.Provided.invariant (system : System) (options : Options) :
    Memory.Invariant (Memory.Provided system options) where
  allocate layout _ provided := provided.allocate layout
  write place cells _ provided := provided.write place cells
  reclaim place size _ provided := provided.reclaim place size
  bufferGrew _ _ _ _ provided := provided.noted _

theorem Host.Reaches.provided {system : System} {options : Options} {request : Nat} {memory : Memory} {host : Host}
    (sound : system.Sound) (created : Memory.create system options request = .ok memory)
    (reaches : (Host.start memory).Reaches host) : host.client.memory.Provided system options :=
  (Memory.Provided.invariant system options).reaches reaches (Memory.Provided.created sound created)

end ArenaLang
