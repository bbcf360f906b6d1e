import ArenaLang.Proofs.Staging

namespace ArenaLang

/-- What can be done with a memory besides acting on the buffers one keeps there, with whatever comes
of it. -/
inductive Memory.Uses (memory : Memory) : Memory → Prop
  | performed (blocks : List (Option Block)) (operation : Operation) :
      Uses memory (Client.perform ⟨memory, blocks⟩ operation).2.memory
  | built (construction : Construction) : Uses memory (construction.run memory).2
  | stored (program : Program) : Uses memory (program.store memory).2
  | recorded (program : Program) (natives : Registry) : Uses memory (Interpreter.record program natives memory).2
  | called {σ : Type} [Writer σ] {interpreter : Interpreter σ} (shared : interpreter.machine.memory = memory)
      (call : Interpreter.Call) : Uses memory (interpreter.perform call).2.machine.memory

namespace Interpreter

variable {σ : Type} [Writer σ]

theorem run_machine (interpreter : Interpreter σ) :
    interpreter.run.2.machine =
      (runWithin interpreter.code.functions.length interpreter.code interpreter.machine).2 := by
  rw [run, ExceptT.run]
  rcases runWithin interpreter.code.functions.length interpreter.code interpreter.machine with
    ⟨stop | error | exitCode, machine⟩ <;> rfl

end Interpreter

namespace Memory

variable {memory after : Memory}

theorem Uses.reaches (uses : memory.Uses after) (watched : List Watched) :
    ∃ made, Scene.Reaches Quiet ⟨memory, watched⟩ ⟨after, watched ++ made⟩ := by
  have played {α : Type} {step : MemoryM α} (staged : Staged id step) :
      ∃ made, Scene.Reaches Quiet ⟨memory, watched⟩ ⟨(step memory).2, watched ++ made⟩ := by
    obtain ⟨made, reaches, _⟩ := staged memory watched [] rfl
    rw [List.append_nil] at reaches
    exact ⟨made, reaches⟩
  cases uses with
  | performed blocks operation =>
      refine ⟨[], ?_⟩
      rw [List.append_nil]
      exact (Scene.Reaches.blocks ⟨memory, watched⟩ watched).perform .refl operation
  | built construction => exact played construction.run_staged
  | stored program => exact played program.store_staged
  | recorded program natives => exact played (Interpreter.record_staged program natives)
  | @called σ _ interpreter shared call =>
      subst shared
      obtain ⟨made, reaches, _⟩ := Interpreter.runWithin_staged interpreter.code.functions.length interpreter.code
        interpreter.machine watched [] rfl
      rw [List.append_nil, ← interpreter.run_machine] at reaches
      cases call with
      | run => exact ⟨made, reaches⟩
      | execute =>
          rw [Interpreter.perform, Interpreter.execute_eq]
          rcases running : interpreter.run with ⟨stop | error | exitCode, ran⟩
          · rw [running] at reaches
            exact ⟨made, reaches⟩
          · rw [running] at reaches
            exact ⟨made, reaches.tail (.apart (.noted rfl rfl))⟩
          · rw [running] at reaches
            exact ⟨made, reaches⟩

theorem Uses.steps (uses : memory.Uses after) : memory.Reaches after := by
  obtain ⟨_, reaches⟩ := uses.reaches []
  exact reaches.memory fun quiet => .single quiet.1

end Memory

/-! ## One step at a time -/

theorem exists_set_of_sublist {α : Type*} {part whole : List α} (sublist : part.Sublist whole) {number : Nat}
    {a : α} (held : part[number]? = some a) :
    ∃ place, whole[place]? = some a ∧ ∀ b, (part.set number b).Sublist (whole.set place b) := by
  induction sublist generalizing number with
  | slnil => cases held
  | cons other sublist ih =>
      obtain ⟨place, found, longer⟩ := ih held
      exact ⟨place + 1, found, fun b => (longer b).cons other⟩
  | cons_cons other sublist ih =>
      cases number with
      | zero => exact ⟨0, held, fun b => sublist.cons_cons b⟩
      | succ number =>
          obtain ⟨place, found, longer⟩ := ih held
          exact ⟨place + 1, found, fun b => (longer b).cons_cons other⟩

namespace Scene

variable {start scene next whole : Scene}

theorem Step.acted_only {apart : Memory → Memory → Prop} {α : Type} [Storable α] {buffer after : Buffer α}
    {memory later : Memory} {action : Buffer.Action α} {growths events : List Event}
    (done : action.run buffer memory = (.ok after, later)) (logged : memory.growthsUntil later = events) :
    Step apart ⟨memory, [⟨buffer, growths⟩]⟩ ⟨later, [⟨after, growths ++ events⟩]⟩ := by
  subst logged
  exact @Step.acted apart ⟨memory, [⟨buffer, growths⟩]⟩ α _ 0 buffer after growths action later rfl done

structure Within (scene whole : Scene) : Prop where
  memory : whole.memory = scene.memory
  watched : scene.watched.Sublist whole.watched

theorem Step.within (within : scene.Within whole) (step : Step Memory.Uses scene next) :
    ∃ further, whole.Reaches Memory.Quiet further ∧ next.Within further := by
  obtain ⟨memory, watched⟩ := whole
  obtain ⟨rfl, sublist⟩ := within
  cases step with
  | apart uses =>
      obtain ⟨made, reaches⟩ := uses.reaches watched
      exact ⟨_, reaches, rfl, sublist.trans (List.sublist_append_left _ _)⟩
  | created => exact ⟨_, .single .created, rfl, sublist.append_right _⟩
  | sized done => exact ⟨_, .single (.sized done), rfl, sublist.append_right _⟩
  | unsized failed => exact ⟨_, .single (.unsized failed), rfl, sublist⟩
  | acted held done =>
      obtain ⟨place, found, longer⟩ := exists_set_of_sublist sublist held
      exact ⟨_, .single (.acted found done), rfl, longer _⟩
  | failed held failed =>
      obtain ⟨place, found, longer⟩ := exists_set_of_sublist sublist held
      exact ⟨_, .single (.failed found failed), rfl, longer _⟩

theorem Reaches.within (reaches : start.Reaches Memory.Uses scene) :
    ∃ whole, start.Reaches Memory.Quiet whole ∧ scene.Within whole := by
  induction reaches with
  | refl => exact ⟨start, .refl, rfl, .refl _⟩
  | tail _ step ih =>
      obtain ⟨whole, reached, within⟩ := ih
      obtain ⟨further, more, after⟩ := step.within within
      exact ⟨further, reached.trans more, after⟩

theorem Reaches.attributes {memory : Memory} (none : memory.growths = [])
    (reaches : (Scene.start memory).Reaches Memory.Quiet whole) : whole.Attributes := by
  induction reaches with
  | refl => exact ⟨by simp [Scene.start], by simp [Scene.start], none ▸ .refl _⟩
  | tail _ step ih => exact ih.step step

theorem Reaches.rewinds (reaches : start.Reaches Memory.Uses scene) {position size cursor : Nat}
    (later : start.memory.log.size ≤ position)
    (logged : scene.memory.log[position]? = some (.blockReclaimed size cursor)) :
    ∃ earlier further before after, start.Reaches Memory.Uses earlier ∧ earlier.Step Memory.Uses further ∧
      further.Reaches Memory.Uses scene ∧ earlier.memory.Reaches before ∧ before.log.size = position ∧
      before.Rewinds size cursor after ∧ after.Reaches further.memory := by
  induction reaches with
  | refl =>
      rw [Array.getElem?_eq_none later] at logged
      cases logged
  | @tail middle last reached step ih =>
      have path := step.memory Memory.Uses.steps
      by_cases inside : position < middle.memory.log.size
      · rw [(path.getElem?_log inside).2] at logged
        obtain ⟨earlier, further, before, after, first, one, rest, found⟩ := ih logged
        exact ⟨earlier, further, before, after, first, one, rest.tail step, found⟩
      · obtain ⟨before, after, found⟩ := path.rewinds (Nat.not_lt.mp inside) logged
        exact ⟨middle, last, before, after, reached, step, .refl, found⟩

end Scene

/-- Whatever is done with an arena, and however it ends, the log since its creation accounts for it: there
is one region besides those that were added, of which each was logged with the number of regions there
then were; all of them have the capacity that the log gives them; where a block was given back in the
course of an operation, the event has the cursor of the region as it was then left, and just the size
of the block was no longer in use; and the growth that was logged is that of the buffers, each of which
grew from nothing to its capacity, every time from where it had come to and with no more elements than
it had room for. -/
theorem log_accounts_for_arena {system : System} {options : Options} {request : Nat} {start : Memory}
    {scene : Scene} (created : Memory.create system options request = .ok start)
    (reaches : (Scene.start start).Reaches Memory.Uses scene) :
    let log := scene.memory.log
    let stats := scene.memory.arena.stats
    (∃ capacity events, log.toList = .arenaCreated capacity :: events ∧
      (∀ event ∈ events, event.isCreation = false) ∧
      stats.capacity = capacity + (log.additions.map Prod.fst).sum) ∧
    stats.regions = 1 + log.additions.length ∧
    (∀ number capacity regions, log.additions[number]? = some (capacity, regions) → regions = number + 2) ∧
    (∀ position size cursor, log[position]? = some (.blockReclaimed size cursor) →
      ∃ earlier later before after, (Scene.start start).Reaches Memory.Uses earlier ∧
        earlier.Step Memory.Uses later ∧ later.Reaches Memory.Uses scene ∧ earlier.memory.Reaches before ∧
        before.log.size = position ∧ before.Rewinds size cursor after ∧ after.Reaches later.memory) ∧
    ∃ whole, (Scene.start start).Reaches Memory.Quiet whole ∧ whole.memory = scene.memory ∧
      scene.watched.Sublist whole.watched ∧ (whole.watched.flatMap Watched.growths).Perm scene.memory.growths ∧
      ∀ watched ∈ whole.watched, watched.growths.Sublist scene.memory.growths ∧
        (Storable.widthOf watched.α ≠ 0 → Buffer.Chain 0 watched.growths watched.buffer.capacity) := by
  have path : start.Reaches scene.memory := reaches.memory Memory.Uses.steps
  obtain ⟨creation, regions, counts⟩ := path.accounts created
  obtain ⟨base, _, rfl⟩ := Memory.eq_of_create created
  obtain ⟨whole, reached, memory, sublist⟩ := reaches.within
  have attributes := reached.attributes rfl
  refine ⟨creation, regions, ?_, ?_, whole, reached, memory, sublist, memory ▸ attributes.complete, ?_⟩
  · intro number capacity regions added
    have counted : (scene.memory.log.additions.map Prod.snd)[number]? = some regions := by
      rw [List.getElem?_map, added, Option.map_some]
    rw [counts] at counted
    grind
  · intro position size cursor logged
    apply reaches.rewinds ?_ logged
    by_contra first
    obtain rfl : position = 0 := Nat.lt_one_iff.mp (Nat.not_le.mp first)
    rw [(path.getElem?_log Nat.zero_lt_one).2] at logged
    simp at logged
  · intro watched member
    refine ⟨memory ▸ attributes.ordered watched member, fun sized => ?_⟩
    have chain := (attributes.chained watched member).chain
    rw [Buffer.empty, if_neg sized] at chain
    exact chain

/-- A buffer that outgrew the first region, whose block was given back, before an interpreter made buffers
of its own: for its functions, for the arguments of a call and for the scope of the function called. -/
theorem log_accounts_for_arena_run :
    Memory.create .paged ⟨64⟩ 0 = .ok .small ∧ ∃ (scene : Scene) (buffer : Buffer UInt64),
      (Scene.start .small).Reaches Memory.Uses scene ∧
      scene.watched = [⟨buffer, [.bufferGrew 0 8 0, .bufferGrew 8 16 5]⟩] ∧
      scene.memory.arena.stats = ⟨4, 64 + (128 + 192 + 160), 504⟩ ∧
      scene.memory.log.additions = [(128, 2), (192, 3), (160, 4)] ∧
      scene.memory.arena.stats.regions = 1 + scene.memory.log.additions.length ∧
      (∃ before after : Memory, before.log.size = 3 ∧ before.Rewinds 64 0 after) ∧
      Buffer.Chain 0 [.bufferGrew 0 8 0, .bufferGrew 8 16 5] buffer.capacity := by
  let few : Buffer.Action UInt64 := .extend [1, 2, 3, 4, 5]
  let more : Buffer.Action UInt64 := .extend [6, 7, 8, 9]
  let program : Program :=
    [.declare "main" [] [.ret (some (.call "same" [.number .zero]))],
      .declare "same" ["x"] [.ret (some (.variable "x"))]]
  let grown := (few.run .empty .small).2
  have works : ((few.run .empty .small).1.toOption.bind fun first =>
      (more.run first grown).1.toOption.bind fun second =>
        (Interpreter.record program .standard (more.run first grown).2).1.toOption.bind fun code =>
          let recorded := (Interpreter.record program .standard (more.run first grown).2).2
          let interpreter : Interpreter OutputStream := ⟨code, ⟨recorded, .unbounded, .passing⟩, none⟩
          let ran := (interpreter.perform .run).2.machine.memory
          if Memory.small.growthsUntil grown = [.bufferGrew 0 8 0] ∧
            grown.growthsUntil (more.run first grown).2 = [.bufferGrew 8 16 5] ∧
            ran.arena.stats = ⟨4, 64 + (128 + 192 + 160), 504⟩ ∧
            ran.log.additions = [(128, 2), (192, 3), (160, 4)] ∧
            ran.log[3]? = some (.blockReclaimed 64 0) then some () else none).isSome := by decide +kernel
  clear_value few more program
  obtain ⟨first, made, works⟩ := exists_ok_of_bind works
  obtain ⟨second, extended, works⟩ := exists_ok_of_bind works
  obtain ⟨code, recorded, works⟩ := exists_ok_of_bind works
  obtain ⟨once, again, stats, additions, reclaimed⟩ := (Option.isSome_ite.mp works : _ ∧ _ ∧ _ ∧ _ ∧ _)
  have empty : (Scene.start .small).Reaches Memory.Uses ⟨.small, [⟨(Buffer.empty : Buffer UInt64), []⟩]⟩ :=
    .single .created
  have filled := empty.tail (.acted_only (Prod.ext made rfl) once)
  have moved := filled.tail (.acted_only (Prod.ext extended rfl) again)
  have served := (moved.tail (.apart (.recorded program .standard))).tail
    (.apart (@Memory.Uses.called _ OutputStream _ ⟨code, ⟨_, .unbounded, .passing⟩, none⟩ rfl .run))
  obtain ⟨_, regions, _, rewinds, whole, _, _, sublist, _, chains⟩ :=
    log_accounts_for_arena Memory.small_created served
  obtain ⟨_, _, before, after, _, _, _, _, count, rewound, _⟩ := rewinds 3 64 0 reclaimed
  have sized : Storable.widthOf UInt64 ≠ 0 := by decide
  exact ⟨Memory.small_created, _, second, served, rfl, stats, additions, regions, ⟨before, after, count, rewound⟩,
    (chains _ (sublist.subset List.mem_cons_self)).2 sized⟩

end ArenaLang
