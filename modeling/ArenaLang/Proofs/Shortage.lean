import ArenaLang.Proofs.Moves

namespace ArenaLang

open MemoryM

/-! ## How large regions are -/

theorem Layout.of?_eq_none_iff {size align : Nat} (power : align.isPowerOfTwo) :
    of? size align = none ↔ bound < size + align := by
  unfold of?
  split
  · rename_i valid
    simp only [reduceCtorEq, Nat.not_lt.mpr valid.2]
  · rename_i invalid
    have large : bound < size + align := Nat.not_le.mp fun small => invalid ⟨power, small⟩
    simp only [large]

theorem System.provides?_bounded {system : System} {before capacity base : Nat}
    (provided : system.provides? before capacity = some base) : capacity + Region.alignment ≤ Layout.bound := by
  by_contra large
  rw [provides?_of_lt system before (Nat.not_le.mp large)] at provided
  cases provided

def System.RefusesFrom (system : System) (limit : Nat) : Prop :=
  ∀ before capacity, system.place? before capacity = none ↔ limit ≤ capacity

theorem System.paged_refusesFrom : paged.RefusesFrom refusedFrom := by
  intro before capacity
  change (if capacity < refusedFrom then some pageSize else none) = none ↔ refusedFrom ≤ capacity
  by_cases small : capacity < refusedFrom
  · simp only [if_pos small, reduceCtorEq, Nat.not_le.mpr small]
  · simp only [if_neg small, Nat.not_lt.mp small]

theorem Memory.create_bounded {system : System} {options : Options} {request : Nat} {memory : Memory}
    (created : create system options request = .ok memory) :
    options.regionCapacity + Region.alignment ≤ Layout.bound := by
  obtain ⟨base, placed, _⟩ := eq_of_create created
  have bounded := System.provides?_bounded placed
  omega

theorem Options.growth_bounded_iff {options : Options}
    (capacity : options.regionCapacity + Region.alignment ≤ Layout.bound) (layout : Layout) :
    options.growth layout + Region.alignment ≤ Layout.bound ↔ layout.size + Region.alignment ≤ Layout.bound := by
  have bounded := layout.bounded
  have one : 1 + Region.alignment ≤ Layout.bound := by decide
  unfold growth
  omega

theorem Options.growth_of_large {options : Options}
    (capacity : options.regionCapacity + Region.alignment ≤ Layout.bound) {layout : Layout}
    (large : Layout.bound < layout.size + Region.alignment) : options.growth layout = layout.size := by
  have bounded := layout.bounded
  have one : 1 + Region.alignment ≤ Layout.bound := by decide
  unfold growth
  omega

/-! ## Carving -/

namespace Memory.Provided

variable {system : System} {options : Options} {memory : Memory} {layout : Layout}

theorem full_of_large (provided : memory.Provided system options)
    (large : Layout.bound < layout.size + Region.alignment) : memory.Full layout := by
  intro region member fits
  obtain ⟨before, base, placed⟩ := provided.regions region member
  have bounded := System.provides?_bounded placed
  unfold Region.Fits at fits
  omega

theorem allocate_eq_error_iff (provided : memory.Provided system options) {failure : Failure} :
    (MemoryM.allocate layout memory).1 = .error failure ↔
      memory.Full layout ∧ system.provides? memory.arena.regions.length (options.growth layout) = none ∧
        failure = .refused (.ofCapacity (options.growth layout)) := by
  obtain ⟨sound, rfl, rfl, _⟩ := provided
  rcases memory.full_or_room layout with full | room
  · rw [allocate_of_full sound full]
    cases placed : memory.arena.system.provides? memory.arena.regions.length (memory.arena.options.growth layout) with
    | none =>
        rw [grow_of_refused placed]
        simp only [Except.error.injEq, full, true_and, eq_comm]
    | some base =>
        rw [grow_of_provided sound placed]
        simp only [reduceCtorEq, false_and, and_false]
  · obtain ⟨index, region, held, fits, _, carved⟩ := allocate_of_room sound room
    rw [carved]
    simp only [reduceCtorEq, false_iff, not_and]
    exact fun full => absurd fits (full region (List.mem_of_getElem? held))

theorem allocate_eq_error_iff_of_small (provided : memory.Provided system options)
    (capacity : options.regionCapacity + Region.alignment ≤ Layout.bound)
    (small : layout.size + Region.alignment ≤ Layout.bound) {failure : Failure} :
    (MemoryM.allocate layout memory).1 = .error failure ↔
      memory.Full layout ∧ system.place? memory.arena.regions.length (options.growth layout) = none ∧
        failure = .refused (.outOfMemory (options.growth layout)) := by
  have bounded := (Options.growth_bounded_iff capacity layout).mpr small
  rw [provided.allocate_eq_error_iff, System.provides?_of_le system _ bounded, Refusal.ofCapacity, if_pos bounded]

theorem allocate_of_large (provided : memory.Provided system options)
    (capacity : options.regionCapacity + Region.alignment ≤ Layout.bound)
    (large : Layout.bound < layout.size + Region.alignment) :
    (MemoryM.allocate layout memory).1 = .error (.refused (.tooLarge layout.size)) := by
  have exact := Options.growth_of_large capacity large
  rw [provided.allocate_eq_error_iff, Refusal.ofCapacity, exact, if_neg (Nat.not_le.mpr large)]
  exact ⟨provided.full_of_large large, System.provides?_of_lt system _ large, rfl⟩

end Memory.Provided

/-- How a request for a block ends. The system is asked only if no region has room, and it is all that
can stand in the way of a block that fits a region at all. -/
structure Memory.Answers (system : System) (options : Options) (memory : Memory) (layout : Layout) : Prop where
  padded : layout.request? = some (layout.size + (layout.align - Region.alignment))
  backed : layout.size + Region.alignment ≤ Layout.bound →
    ∃ back, Layout.of? (options.growth layout) Region.alignment = some back
  carved : ∀ base, Region.alignment ∣ base → base + options.growth layout < Word.limit →
    ∃ offset after, (Region.fresh base (options.growth layout)).carve layout = .ok (some (offset, after))
  answered : (∃ place, (allocate layout memory).1 = .ok place) ∨
    (∃ capacity, (allocate layout memory).1 = .error (.refused (.outOfMemory capacity))) ∨
      ∃ size, (allocate layout memory).1 = .error (.refused (.tooLarge size))
  outOfMemory : ∀ capacity, (allocate layout memory).1 = .error (.refused (.outOfMemory capacity)) ↔
    layout.size + Region.alignment ≤ Layout.bound ∧ memory.Full layout ∧
      system.place? memory.arena.regions.length (options.growth layout) = none ∧ capacity = options.growth layout
  tooLarge : ∀ size, (allocate layout memory).1 = .error (.refused (.tooLarge size)) ↔
    Layout.bound < layout.size + Region.alignment ∧ size = layout.size

theorem Memory.Provided.answers {system : System} {options : Options} {memory : Memory}
    (provided : memory.Provided system options) (capacity : options.regionCapacity + Region.alignment ≤ Layout.bound)
    (layout : Layout) : memory.Answers system options layout := by
  have layouts := Options.growth_bounded_iff capacity layout
  refine ⟨layout.request?_eq, ?_, ?_, ?_, ?_, ?_⟩
  · intro small
    exact ⟨_, by rw [Layout.of?, dif_pos ⟨Region.alignment_powerOfTwo, layouts.mpr small⟩]⟩
  · intro base aligned inSpace
    rw [Region.carve_eq (.fresh aligned inSpace) layout, if_pos (options.growth_fits layout aligned)]
    exact ⟨_, _, rfl⟩
  · by_cases small : layout.size + Region.alignment ≤ Layout.bound
    · rcases answered : (MemoryM.allocate layout memory).1 with failure | place
      · obtain ⟨_, _, rfl⟩ := (provided.allocate_eq_error_iff_of_small capacity small).mp answered
        exact .inr (.inl ⟨_, rfl⟩)
      · exact .inl ⟨place, rfl⟩
    · exact .inr (.inr ⟨_, provided.allocate_of_large capacity (Nat.not_le.mp small)⟩)
  · intro asked
    by_cases small : layout.size + Region.alignment ≤ Layout.bound
    · rw [provided.allocate_eq_error_iff_of_small capacity small]
      simp only [Failure.refused.injEq, Refusal.outOfMemory.injEq, small, true_and]
    · rw [provided.allocate_of_large capacity (Nat.not_le.mp small)]
      simp only [Except.error.injEq, Failure.refused.injEq, reduceCtorEq, small, false_and]
  · intro size
    by_cases small : layout.size + Region.alignment ≤ Layout.bound
    · rw [provided.allocate_eq_error_iff_of_small capacity small]
      simp only [Failure.refused.injEq, reduceCtorEq, and_false, Nat.not_lt.mpr small, false_and]
    · have large := Nat.not_le.mp small
      rw [provided.allocate_of_large capacity large]
      simp only [Except.error.injEq, Failure.refused.injEq, Refusal.tooLarge.injEq, large, true_and, eq_comm]

/-! ## Moving -/

structure Memory.AnswersMove (memory : Memory) (place? : Option Place) (layout : Layout) (size : Nat) : Prop where
  tooLarge : ∀ refused, (reallocate place? layout size memory).1 = .error (.refused (.tooLarge refused)) ↔
    Layout.bound < size + max layout.align Region.alignment ∧ refused = size
  otherwise : ∀ resized, layout.resize? size = some resized → ∀ failure,
    (reallocate place? layout size memory).1 = .error failure ↔ (allocate resized memory).1 = .error failure

theorem MemoryM.reallocate_of_no_layout {layout : Layout} {size : Nat} (none : layout.resize? size = none)
    (place? : Option Place) (memory : Memory) :
    reallocate place? layout size memory = (.error (.refused (.tooLarge size)), memory) := by
  rw [reallocate, none]
  rfl

theorem MemoryM.reallocate_eq_error_iff {place? : Option Place} {layout resized : Layout} {size : Nat}
    {memory : Memory} (found : layout.resize? size = some resized)
    (succeeds : ∀ place carved, allocate resized memory = (.ok place, carved) →
      ∃ after, reallocate place? layout size memory = (.ok place, after)) (failure : Failure) :
    (reallocate place? layout size memory).1 = .error failure ↔ (allocate resized memory).1 = .error failure := by
  rcases allocated : allocate resized memory with ⟨other | place, carved⟩
  · rw [reallocate, found]
    simp only
    rw [bind_error allocated]
  · obtain ⟨after, done⟩ := succeeds place carved allocated
    rw [done]

theorem Memory.Provided.answersMove {system : System} {options : Options} {memory : Memory}
    (provided : memory.Provided system options) (capacity : options.regionCapacity + Region.alignment ≤ Layout.bound)
    {place? : Option Place} {layout : Layout} {size : Nat}
    (succeeds : ∀ resized, layout.resize? size = some resized → ∀ place carved,
      MemoryM.allocate resized memory = (.ok place, carved) →
        ∃ after, reallocate place? layout size memory = (.ok place, after)) :
    memory.AnswersMove place? layout size := by
  refine ⟨?_, fun resized found => reallocate_eq_error_iff found (succeeds resized found)⟩
  intro refused
  cases found : layout.resize? size with
  | none =>
      have large := (Layout.of?_eq_none_iff layout.powerOfTwo).mp found
      have beyond : Layout.bound < size + max layout.align Region.alignment := by omega
      rw [reallocate_of_no_layout found]
      simp only [Except.error.injEq, Failure.refused.injEq, Refusal.tooLarge.injEq, beyond, true_and, eq_comm]
  | some resized =>
      obtain ⟨sized, aligned⟩ := Layout.of?_eq_some_iff.mp found
      have bounded := resized.bounded
      rw [reallocate_eq_error_iff found (succeeds resized found), (provided.answers capacity resized).tooLarge, sized]
      have same : Layout.bound < size + Region.alignment ↔
          Layout.bound < size + max layout.align Region.alignment := by omega
      rw [same]

/-- Where a host has come to, a request for a block is refused only if no region has room and the
system refuses another one of the capacity it takes, or if no region could hold the block; moving a
block is refused if its new size is no layout, and else exactly when the new block is. -/
theorem refused_for_lack_of_memory {system : System} {options : Options} {request : Nat} {memory : Memory}
    {host : Host} (sound : system.Sound) (created : Memory.create system options request = .ok memory)
    (reaches : (Host.start memory).Reaches host) :
    (∀ layout, host.client.memory.Answers system options layout) ∧
      (∀ block, host.Live block → ∀ size, host.client.memory.AnswersMove (some block.place) block.layout size) ∧
      (∀ layout : Layout, layout.size = 0 → ∀ place? size, host.client.memory.AnswersMove place? layout size) ∧
      (system = .paged → system.RefusesFrom System.refusedFrom) := by
  have provided := reaches.provided sound created
  have capacity := Memory.create_bounded created
  have hosts := reaches.sound (Host.start_sound (Memory.create_holds sound created))
  refine ⟨provided.answers capacity, ?_, ?_, ?_⟩
  · intro block live size
    obtain ⟨entry, frame, rfl, holds⟩ := live.holds hosts
    apply provided.answersMove capacity
    intro resized found place carved allocated
    obtain ⟨filled, result, _⟩ := reallocate_of_held holds found allocated
    exact ⟨_, result⟩
  · intro layout empty place? size
    apply provided.answersMove capacity
    intro resized found place carved allocated
    rw [reallocate_of_empty empty, reallocate, found]
    simp only
    rw [bind_ok allocated]
    exact ⟨carved, rfl⟩
  · rintro rfl
    exact System.paged_refusesFrom

/-- A block of as many bytes as the system refuses, in an arena that is in use. -/
theorem refused_for_lack_of_memory_large :
    System.paged.Sound ∧ Memory.create .paged ⟨64⟩ 0 = .ok .small ∧
      ∃ host layout, (Host.start .small).Reaches host ∧ host.client.memory.Answers .paged ⟨64⟩ layout ∧
        (allocate layout host.client.memory).1 = .error (.refused (.outOfMemory System.refusedFrom)) := by
  have reaches := Relation.ReflTransGen.single (@Host.Step.foreign (Host.start .small) (.storeText "abc"))
  exact ⟨System.paged_sound, Memory.small_created, _, ⟨System.refusedFrom, 8, ⟨3, rfl⟩, by decide⟩, reaches,
    (refused_for_lack_of_memory System.paged_sound Memory.small_created reaches).1 _, rfl⟩

/-- The largest layout is no block of any region: a region of as many bytes has no layout. -/
theorem greatest_layout_is_too_large :
    System.paged.Sound ∧ Memory.create .paged ⟨64⟩ 0 = .ok .small ∧ (Host.start .small).Reaches (Host.start .small) ∧
      (allocate ⟨Layout.bound - 1, 1, ⟨0, rfl⟩, by decide⟩ (Host.start .small).client.memory).1 =
        .error (.refused (.tooLarge (Layout.bound - 1))) :=
  ⟨System.paged_sound, Memory.small_created, .refl, rfl⟩

end ArenaLang
