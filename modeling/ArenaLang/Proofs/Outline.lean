import ArenaLang.Proofs.Refusal
import ArenaLang.Scope

/-!
# Outlines

The outline of an arena is what it is apart from its contents: how large its regions are, where they
lie and how far each is carved. Operations never look at contents to decide what to do, so two
arenas of one outline have one outline afterwards, and the outline behind an operation can be told
from the one before it.
-/

namespace ArenaLang

namespace Region

def outline (region : Region) : Region := { region with tape := .empty }

theorem carve_outline (layout : Layout) (region : Region) :
    region.outline.carve layout = (region.carve layout).map (Option.map (Prod.map id outline)) := by
  have base : region.outline.base = region.base := rfl
  have cursor : region.outline.cursor = region.cursor := rfl
  have capacity : region.outline.capacity = region.capacity := rfl
  simp only [carve, base, cursor, capacity]
  rcases Word.add? region.base region.cursor with _ | current
  · rfl
  simp only
  rcases Word.roundUp? current layout.align with _ | aligned
  · rfl
  by_cases below : aligned < region.base
  · simp only [if_pos below]
    rfl
  simp only [if_neg below]
  rcases Word.add? (aligned - region.base) layout.size with _ | behind
  · rfl
  by_cases full : region.capacity < behind
  · simp only [if_pos full]
    rfl
  · simp only [if_neg full]
    rfl

theorem reclaim?_outline (offset size : Nat) (region : Region) :
    region.outline.reclaim? offset size = (region.reclaim? offset size).map (Option.map outline) := by
  have contained : region.outline.contains offset = region.contains offset := rfl
  have last : region.outline.endsAtCursor offset size = region.endsAtCursor offset size := rfl
  have rewound : region.outline.rewind size = (region.rewind size).map outline := by
    have cursor : region.outline.cursor = region.cursor := rfl
    rw [rewind, rewind, cursor]
    split <;> rfl
  simp only [reclaim?, contained, last, rewound, bind, Except.bind]
  rcases region.contains offset with fault | _ | _
  · rfl
  · rfl
  · rcases region.endsAtCursor offset size with fault | _ | _
    · rfl
    · rfl
    · rcases region.rewind size with fault | _ <;> rfl

@[simp] theorem outline_write (offset : Nat) (cells : List Cell) (region : Region) :
    (region.write offset cells).outline = region.outline := rfl

end Region

theorem firstFit_outline (layout : Layout) (chain : List Region) :
    firstFit layout (chain.map Region.outline) =
      (firstFit layout chain).map (Option.map (Prod.map id (List.map Region.outline))) := by
  induction chain with
  | nil => rfl
  | cons region rest ih =>
      rw [List.map_cons, firstFit, firstFit, Region.carve_outline, ih]
      rcases region.carve layout with fault | _ | ⟨offset, carved⟩
      · rfl
      · rcases firstFit layout rest with fault | _ | ⟨place, chain⟩ <;> rfl
      · rfl

namespace Arena

def outline (arena : Arena) : Arena := { arena with regions := arena.regions.map Region.outline }

@[simp] theorem outline_outline (arena : Arena) : arena.outline.outline = arena.outline := by
  simp only [outline, List.map_map]
  rfl

theorem stats_outline (arena : Arena) : arena.outline.stats = arena.stats := by
  simp only [stats, outline, List.length_map, List.map_map]
  rfl

theorem remaining_outline (arena : Arena) : arena.outline.remaining = arena.remaining := by
  simp only [remaining, outline, List.map_map]
  rfl

theorem outline_eq_iff {arena other : Arena} :
    arena.outline = other.outline ↔ arena.system = other.system ∧ arena.options = other.options ∧
      arena.regions.map Region.outline = other.regions.map Region.outline := by
  cases arena
  cases other
  simp [outline]

end Arena

namespace MemoryM

variable {α β γ δ : Type}

inductive Alike (related : α → β → Prop) : Except Failure α × Memory → Except Failure β × Memory → Prop
  | ok {a : α} {b : β} {memory another : Memory} (given : related a b)
      (same : memory.arena.outline = another.arena.outline) : Alike related (.ok a, memory) (.ok b, another)
  | error {failure : Failure} {memory another : Memory}
      (same : memory.arena.outline = another.arena.outline) :
      Alike related (.error failure, memory) (.error failure, another)

/-- Whether two steps do the same to arenas of one outline. -/
def Blind (related : α → β → Prop) (step : MemoryM α) (other : MemoryM β) : Prop :=
  ∀ memory another : Memory, memory.arena.outline = another.arena.outline →
    Alike related (step memory) (other another)

namespace Blind

variable {related : α → β → Prop} {later : γ → δ → Prop} {step : MemoryM α} {other : MemoryM β}

theorem pure {a : α} {b : β} (given : related a b) : Blind related (pure a) (pure b) :=
  fun _ _ same => .ok given same

theorem throw (failure : Failure) : Blind related (throw failure) (throw failure) :=
  fun _ _ same => .error same

theorem bind {next : α → MemoryM γ} {follow : β → MemoryM δ} (first : Blind related step other)
    (second : ∀ a b, related a b → Blind later (next a) (follow b)) : Blind later (step >>= next) (other >>= follow) := by
  intro memory another same
  have ends := first memory another same
  rw [bind_apply, bind_apply]
  generalize step memory = result at ends
  generalize other another = ending at ends
  cases ends with
  | ok given same => exact second _ _ given _ _ same
  | error same => exact .error same

theorem andThen {step other : MemoryM α} {next : α → MemoryM γ} {follow : α → MemoryM δ} (first : Blind Eq step other)
    (second : ∀ a, Blind later (next a) (follow a)) : Blind later (step >>= next) (other >>= follow) :=
  first.bind fun a _ same => same ▸ second a

theorem get : Blind (fun memory another => memory.arena.outline = another.arena.outline) (MonadState.get)
    (MonadState.get) :=
  fun _ _ same => .ok same same

theorem regions : Blind (fun chain others => chain.map Region.outline = others.map Region.outline) regions regions :=
  fun _ _ same => .ok (Arena.outline_eq_iff.mp same).2.2 same

theorem setRegions {chain others : List Region} (same : chain.map Region.outline = others.map Region.outline) :
    Blind Eq (setRegions chain) (setRegions others) := by
  intro memory another alike
  obtain ⟨system, options, _⟩ := Arena.outline_eq_iff.mp alike
  exact .ok rfl (Arena.outline_eq_iff.mpr ⟨system, options, same⟩)

theorem note (event other : Event) : Blind Eq (note event) (note other) := fun _ _ same => .ok rfl same

theorem ofFault {view : α → γ} {glance : β → γ} {result : Except Fault α} {ending : Except Fault β}
    (same : result.map view = ending.map glance) :
    Blind (fun a b => view a = glance b) (ofFault result) (ofFault ending) := by
  cases result with
  | error fault =>
      cases ending with
      | error other =>
          cases same
          exact .throw _
      | ok b => cases same
  | ok a =>
      cases ending with
      | error other => cases same
      | ok b => exact .pure (Except.ok.inj same)

end Blind

theorem grow_blind (layout : Layout) : Blind Eq (grow layout) (grow layout) := by
  apply Blind.get.bind
  intro memory another same
  obtain ⟨system, options, chain⟩ := Arena.outline_eq_iff.mp same
  have length : memory.arena.regions.length = another.arena.regions.length := by
    simpa using congrArg List.length chain
  cases layout.request? with
  | none => exact .throw _
  | some request =>
      have size : memory.arena.regionSize request = another.arena.regionSize request := by
        rw [Arena.regionSize, Arena.regionSize, options]
      simp only [system, length, size]
      cases Arena.newRegion another.arena.system another.arena.regions.length
          (another.arena.regionSize request) with
      | error refusal => exact .throw _
      | ok region =>
          have carving : Blind Eq (MemoryM.ofFault (region.carve layout)) (MemoryM.ofFault (region.carve layout)) :=
            .ofFault (congrArg (Except.map id) rfl)
          apply carving.andThen
          intro carved
          cases carved with
          | none => exact .throw _
          | some carved =>
              apply (Blind.note _ _).andThen
              intro _
              apply (Blind.setRegions _).andThen
              · exact fun _ => .pure rfl
              · simp only [List.map_append, chain]

theorem allocate_blind (layout : Layout) : Blind Eq (allocate layout) (allocate layout) := by
  apply Blind.regions.bind
  intro chain others same
  have search := firstFit_outline layout others
  rw [← same, firstFit_outline] at search
  apply (Blind.ofFault search).bind
  intro found other alike
  cases found with
  | none =>
      cases other with
      | none => exact grow_blind layout
      | some other => cases alike
  | some found =>
      cases other with
      | none => cases alike
      | some other =>
          obtain ⟨place, chain⟩ := found
          obtain ⟨otherPlace, others⟩ := other
          simp only [Option.map_some, Option.some.injEq, Prod.map_apply, Prod.mk.injEq, id] at alike
          obtain ⟨rfl, alike⟩ := alike
          exact (Blind.setRegions alike).andThen fun _ => .pure rfl

theorem map_outline_modify (place : Place) (cells : List Cell) (chain : List Region) :
    (chain.modify place.region (·.write place.offset cells)).map Region.outline = chain.map Region.outline := by
  apply List.ext_getElem?
  intro index
  simp only [List.getElem?_map, List.getElem?_modify]
  cases chain[index]? with
  | none => rfl
  | some region => grind [Region.outline_write]

theorem write_blind (place : Place) (cells others : List Cell) : Blind Eq (write place cells) (write place others) := by
  apply Blind.regions.bind
  intro chain other same
  exact .setRegions (by rw [map_outline_modify, map_outline_modify, same])

theorem getElem?_alike {chain others : List Region} (same : chain.map Region.outline = others.map Region.outline)
    (index : Nat) : chain[index]?.map Region.outline = others[index]?.map Region.outline := by
  rw [← List.getElem?_map, ← List.getElem?_map, same]

theorem read_blind (place : Place) (count : Nat) :
    Blind (fun _ _ => True) (read place count) (read place count) := by
  apply Blind.regions.bind
  intro chain others same
  have alike := getElem?_alike same place.region
  cases held : chain[place.region]? with
  | none =>
      cases other : others[place.region]? with
      | none => exact .throw _
      | some region => simp [held, other] at alike
  | some region =>
      cases other : others[place.region]? with
      | none => simp [held, other] at alike
      | some region => exact .pure trivial

theorem reclaim_blind (place : Place) (size : Nat) : Blind Eq (reclaim place size) (reclaim place size) := by
  apply Blind.regions.bind
  intro chain others same
  have alike := getElem?_alike same place.region
  cases held : chain[place.region]? with
  | none =>
      cases other : others[place.region]? with
      | none => exact .pure rfl
      | some region => simp [held, other] at alike
  | some region =>
      cases other : others[place.region]? with
      | none => simp [held, other] at alike
      | some another =>
          rw [held, other, Option.map_some, Option.map_some, Option.some.injEq] at alike
          have given := Region.reclaim?_outline place.offset size another
          rw [← alike, Region.reclaim?_outline] at given
          apply (Blind.ofFault given).bind
          intro found last matched
          cases found with
          | none =>
              cases last with
              | none => exact .pure rfl
              | some last => cases matched
          | some found =>
              cases last with
              | none => cases matched
              | some last =>
                  rw [Option.map_some, Option.map_some, Option.some.injEq] at matched
                  apply (Blind.setRegions _).andThen
                  · exact fun _ => .note _ _
                  · rw [List.map_set, List.map_set, same, matched]

theorem reallocate_blind (old : Option Place) (layout : Layout) (size : Nat) :
    Blind Eq (reallocate old layout size) (reallocate old layout size) := by
  unfold reallocate
  cases layout.resize? size with
  | none => exact .throw _
  | some resized =>
      apply (allocate_blind resized).andThen
      intro new
      cases old with
      | none => exact .pure rfl
      | some place =>
          have release : Blind Eq
              (if 0 < layout.size then do
                reclaim place layout.size
                return new
              else return new)
              (if 0 < layout.size then do
                reclaim place layout.size
                return new
              else return new) := by
            split
            · exact (reclaim_blind place layout.size).andThen fun _ => .pure rfl
            · exact .pure rfl
          simp only
          split
          · apply (read_blind place _).bind
            intro cells others _
            exact (write_blind new cells others).andThen fun _ => release
          · exact release

end MemoryM

open MemoryM (Blind)

/-! ## Buffers and scopes -/

namespace Buffer

variable {α : Type} [Storable α]

theorem expect_blind (condition : Bool) (fault : Fault) :
    Blind Eq (expect condition fault) (expect condition fault) := by
  unfold expect
  split
  · exact .pure rfl
  · exact .throw _

theorem ofRefusal_blind {β : Type} (result : Except Refusal β) : Blind Eq (ofRefusal result) (ofRefusal result) := by
  cases result with
  | ok b => exact .pure rfl
  | error refusal => exact .throw _

theorem grow_blind (capacity : Nat) (buffer : Buffer α) : Blind Eq (buffer.grow capacity) (buffer.grow capacity) := by
  apply (expect_blind _ _).andThen
  intro _
  apply (ofRefusal_blind _).andThen
  intro old
  apply (ofRefusal_blind _).andThen
  intro new
  apply (MemoryM.reallocate_blind _ _ _).andThen
  intro place
  exact (Blind.note _ _).andThen fun _ => .pure rfl

theorem withCapacity_blind (capacity : Nat) :
    Blind Eq (withCapacity capacity : MemoryM (Buffer α)) (withCapacity capacity) := by
  unfold withCapacity
  split
  · exact grow_blind capacity empty
  · exact .pure rfl

theorem fill_blind {elements others : List α} (same : elements.length = others.length) (buffer : Buffer α) :
    Blind Eq (buffer.fill elements) (buffer.fill others) := by
  unfold fill
  rw [same]
  apply (expect_blind _ _).andThen
  intro _
  cases buffer.place with
  | none => exact .pure rfl
  | some place => exact (MemoryM.write_blind _ _ _).andThen fun _ => .pure rfl

theorem push_blind (a b : α) (buffer : Buffer α) : Blind Eq (buffer.push a) (buffer.push b) := by
  have fill (roomy : Buffer α) : Blind Eq (roomy.fill [a]) (roomy.fill [b]) := fill_blind (by rfl) roomy
  unfold push
  split
  · have grown : Blind Eq buffer.growByOne buffer.growByOne := by
      apply (expect_blind _ _).andThen
      intro _
      exact (ofRefusal_blind _).andThen fun capacity => grow_blind capacity buffer
    exact grown.andThen fill
  · exact fill buffer

theorem pushAll_blind {elements others : List α} (same : elements.length = others.length) (buffer : Buffer α) :
    Blind Eq (buffer.pushAll elements) (buffer.pushAll others) := by
  induction elements generalizing others buffer with
  | nil =>
      rw [List.eq_nil_of_length_eq_zero same.symm]
      exact .pure rfl
  | cons a rest ih =>
      cases others with
      | nil => cases same
      | cons b more =>
          exact (push_blind a b buffer).andThen fun next => ih (Nat.succ.inj same) next

end Buffer

theorem Scope.bindAll_blind {pairs others : List (String × Value)} (same : pairs.length = others.length)
    {scope other : Scope} (alike : scope.bindings = other.bindings) :
    Blind (fun scope other => scope.bindings = other.bindings) (scope.bindAll pairs) (other.bindAll others) := by
  induction pairs generalizing others scope other with
  | nil =>
      rw [List.eq_nil_of_length_eq_zero same.symm]
      exact .pure alike
  | cons pair rest ih =>
      cases others with
      | nil => cases same
      | cons another more =>
          have one : Blind (fun scope other => scope.bindings = other.bindings)
              (scope.bind pair.1 pair.2) (other.bind another.1 another.2) := by
            unfold Scope.bind
            rw [alike]
            exact (Buffer.push_blind _ _ _).bind fun _ _ same => .pure same
          apply one.bind
          intro next last alike
          exact ih (Nat.succ.inj same) alike

/-! ## Effects -/

def Arena.after {α : Type} (step : MemoryM α) (arena : Arena) : Option Arena :=
  match step ⟨arena, #[]⟩ with
  | (.ok _, memory) => some memory.arena.outline
  | (.error _, _) => none

namespace MemoryM

variable {α β : Type} {step : MemoryM α} {effect : Arena → Option Arena}

/-- Whether a step does to an outline what is said, and fails where that has no result. -/
def Effects (effect : Arena → Option Arena) (step : MemoryM α) : Prop :=
  ∀ memory, effect memory.arena.outline =
    (step memory).1.toOption.map fun _ => (step memory).2.arena.outline

theorem Effects.pure (a : α) : Effects some (Pure.pure a) := fun _ => rfl

theorem Effects.bind {later : Arena → Option Arena} {next : α → MemoryM β} (first : Effects effect step)
    (second : ∀ a, Effects later (next a)) : Effects (fun arena => (effect arena).bind later) (step >>= next) := by
  intro memory
  rw [bind_apply]
  simp only [first memory]
  rcases step memory with ⟨failure | a, after⟩
  · rfl
  · exact second a after

theorem Blind.effects {related : α → β → Prop} {other : MemoryM β} (blind : Blind related step other) :
    Effects (Arena.after other) step := by
  intro memory
  have ends := blind memory ⟨memory.arena.outline, #[]⟩ memory.arena.outline_outline.symm
  rw [Arena.after]
  generalize step memory = result at ends
  generalize other ⟨memory.arena.outline, #[]⟩ = ending at ends
  cases ends with
  | ok given same => exact congrArg some same.symm
  | error same => rfl

theorem write_effects (place : Place) (cells : List Cell) : Effects some (write place cells) := by
  intro memory
  have same : { memory.arena with
      regions := memory.arena.regions.modify place.region (·.write place.offset cells) }.outline =
        memory.arena.outline :=
    Arena.outline_eq_iff.mpr ⟨rfl, rfl, map_outline_modify place cells _⟩
  exact congrArg some same.symm

end MemoryM

theorem Buffer.push_effects {α : Type} [Storable α] (a : α) {buffer : Buffer α}
    (room : buffer.length < buffer.capacity) : MemoryM.Effects some (buffer.push a) := by
  have notFull : buffer.length ≠ buffer.capacity := Nat.ne_of_lt room
  have fits : decide (buffer.length + [a].length ≤ buffer.capacity) = true := decide_eq_true room
  have filled : MemoryM.Effects some (buffer.fill [a]) := by
    unfold Buffer.fill
    rw [fits]
    cases buffer.place with
    | none => exact .pure _
    | some place => exact (MemoryM.write_effects _ _).bind fun _ => .pure _
  unfold push
  rw [if_neg notFull]
  exact filled

end ArenaLang
