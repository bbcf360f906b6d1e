import ArenaLang.Proofs.Capacities
import ArenaLang.Proofs.Course
import ArenaLang.Proofs.Moves
import Mathlib.Data.Nat.Log
import Mathlib.Order.Bounds.Basic

/-!
# Levels

The level of an arena is the sum of its cursors, each rounded up to a word. Carving blocks of whole
words adds their sizes to the level, whatever was carved before, and at least that to what is in use;
giving a block back takes its size from what is in use and never adds to the level. So between the two
sums there is what a run takes from an arena, however its blocks come to lie.
-/

namespace ArenaLang

open MemoryM

/-! ## Cursors -/

namespace Word

theorem le_roundUp_word (cursor : Nat) : cursor ≤ roundUp cursor 8 := le_roundUp cursor (by decide)

theorem roundUp_word_le (cursor : Nat) : roundUp cursor 8 ≤ cursor + 7 := by
  have below := @roundUp_lt cursor 8 (by decide)
  omega

theorem roundUp_word_mono {cursor other : Nat} (le : cursor ≤ other) : roundUp cursor 8 ≤ roundUp other 8 :=
  roundUp_le (by decide) (dvd_roundUp other 8) (Nat.le_trans le (le_roundUp_word other))

theorem roundUp_word_of_dvd {size : Nat} (words : 8 ∣ size) : roundUp size 8 = size :=
  Nat.le_antisymm (roundUp_le (by decide) words (Nat.le_refl size)) (le_roundUp_word size)

theorem roundUp_word_add {cursor size : Nat} (words : 8 ∣ size) : roundUp (cursor + size) 8 = roundUp cursor 8 + size := by
  unfold roundUp
  omega

end Word

def Arena.cursors (arena : Arena) : List Nat := arena.regions.map Region.cursor

theorem Arena.getElem?_cursors {arena : Arena} {index : Nat} {region : Region}
    (held : arena.regions[index]? = some region) : arena.cursors[index]? = some region.cursor := by
  rw [cursors, List.getElem?_map, held, Option.map_some]

theorem Arena.cursors_outline (arena : Arena) : arena.outline.cursors = arena.cursors := by
  simp only [cursors, outline, List.map_map]
  rfl

theorem Arena.cursors_eq_of_outline {arena other : Arena} (same : arena.outline = other.outline) :
    arena.cursors = other.cursors := by
  rw [← arena.cursors_outline, same, other.cursors_outline]

def level (cursors : List Nat) : Nat := (cursors.map (Word.roundUp · 8)).sum

theorem sum_le_level (cursors : List Nat) : cursors.sum ≤ level cursors := by
  induction cursors with
  | nil => exact Nat.le_refl _
  | cons cursor rest ih =>
      have first := Word.le_roundUp_word cursor
      simp only [level, List.map_cons, List.sum_cons] at ih ⊢
      omega

theorem level_le (cursors : List Nat) : level cursors ≤ cursors.sum + 7 * cursors.length := by
  induction cursors with
  | nil => exact Nat.le_refl _
  | cons cursor rest ih =>
      have first := Word.roundUp_word_le cursor
      simp only [level, List.map_cons, List.sum_cons, List.length_cons] at ih ⊢
      omega

theorem sum_set_add {cursors : List Nat} {index cursor : Nat} (held : cursors[index]? = some cursor) (next : Nat) :
    (cursors.set index next).sum + cursor = cursors.sum + next := by
  induction cursors generalizing index with
  | nil => cases held
  | cons first rest ih =>
      cases index with
      | zero =>
          cases held
          simp only [List.set_cons_zero, List.sum_cons]
          omega
      | succ index =>
          have tail := ih held
          simp only [List.set_cons_succ, List.sum_cons]
          omega

theorem level_set_add {cursors : List Nat} {index cursor : Nat} (held : cursors[index]? = some cursor) (next : Nat) :
    level (cursors.set index next) + Word.roundUp cursor 8 = level cursors + Word.roundUp next 8 := by
  have rounded : (cursors.map (Word.roundUp · 8))[index]? = some (Word.roundUp cursor 8) := by
    rw [List.getElem?_map, held, Option.map_some]
  rw [level, List.map_set]
  exact sum_set_add rounded _

/-! ## Rising -/

/-- Whether cursors lead to others of which none is lower, that are higher by at least some bytes, and
the level of which is higher by at most some. -/
structure Rises (before after : List Nat) (least most : Nat) : Prop where
  kept : ∀ (index cursor : Nat), before[index]? = some cursor → ∃ other : Nat, after[index]? = some other ∧ cursor ≤ other
  least : before.sum + least ≤ after.sum
  most : level after ≤ level before + most

namespace Rises

variable {before middle after : List Nat} {index cursor next least most more further size : Nat}

theorem refl (cursors : List Nat) : Rises cursors cursors 0 0 :=
  ⟨fun _ cursor held => ⟨cursor, held, Nat.le_refl _⟩, Nat.le_refl _, Nat.le_refl _⟩

theorem trans (rises : Rises before middle least most) (others : Rises middle after more further) :
    Rises before after (least + more) (most + further) := by
  refine ⟨?_, ?_, ?_⟩
  · intro index cursor held
    obtain ⟨between, found, above⟩ := rises.kept index cursor held
    obtain ⟨last, reached, higher⟩ := others.kept index between found
    exact ⟨last, reached, Nat.le_trans above higher⟩
  · have first := rises.least
    have second := others.least
    omega
  · have first := rises.most
    have second := others.most
    omega

theorem set (held : before[index]? = some cursor) (above : cursor + size ≤ next)
    (bound : Word.roundUp next 8 ≤ Word.roundUp cursor 8 + size) : Rises before (before.set index next) size size := by
  have inside := (List.getElem?_eq_some_iff.mp held).1
  refine ⟨?_, ?_, ?_⟩
  · intro other lower found
    by_cases same : index = other
    · subst same
      rw [held, Option.some.injEq] at found
      exact ⟨next, List.getElem?_set_self inside, by omega⟩
    · exact ⟨lower, (List.getElem?_set_ne same).trans found, Nat.le_refl _⟩
  · have sums := sum_set_add held next
    omega
  · have levels := level_set_add held next
    omega

theorem append (words : 8 ∣ size) : Rises before (before ++ [size]) size size := by
  refine ⟨?_, ?_, ?_⟩
  · intro index cursor held
    have inside := (List.getElem?_eq_some_iff.mp held).1
    exact ⟨cursor, (List.getElem?_append_left inside).trans held, Nat.le_refl _⟩
  · rw [List.sum_append, List.sum_singleton]
  · rw [level, List.map_append, List.sum_append, List.map_singleton, List.sum_singleton,
      Word.roundUp_word_of_dvd words]
    exact Nat.le_refl _

theorem giveBack (rises : Rises before after (least + size) most) (held : after[index]? = some (next + size))
    (carved : ∀ cursor, before[index]? = some cursor → cursor ≤ next) : Rises before (after.set index next) least most := by
  have inside := (List.getElem?_eq_some_iff.mp held).1
  refine ⟨?_, ?_, ?_⟩
  · intro other cursor found
    by_cases same : index = other
    · subst same
      exact ⟨next, List.getElem?_set_self inside, carved cursor found⟩
    · obtain ⟨last, reached, above⟩ := rises.kept other cursor found
      exact ⟨last, (List.getElem?_set_ne same).trans reached, above⟩
  · have sums := sum_set_add held next
    have higher := rises.least
    omega
  · have levels := level_set_add held next
    have lower : Word.roundUp next 8 ≤ Word.roundUp (next + size) 8 := Word.roundUp_word_mono (Nat.le_add_right _ _)
    have higher := rises.most
    omega

theorem above (rises : Rises before after least most) {region offset : Nat}
    (behind : ∀ cursor, after[region]? = some cursor → cursor ≤ offset) (cursor : Nat)
    (held : before[region]? = some cursor) : cursor ≤ offset := by
  obtain ⟨other, found, higher⟩ := rises.kept region cursor held
  exact Nat.le_trans higher (behind other found)

theorem weaken (rises : Rises before after more most) (fewer : least ≤ more) : Rises before after least most :=
  ⟨rises.kept, by have higher := rises.least; omega, rises.most⟩

end Rises

/-! ## Blocks of words -/

structure Layout.Words (layout : Layout) : Prop where
  align : layout.align = 8
  size : 8 ∣ layout.size

theorem Region.nextOffset_of_words {region : Region} {layout : Layout} (sound : region.Sound) (words : layout.Words) :
    region.nextOffset layout = Word.roundUp region.cursor 8 := by
  obtain ⟨pages, base⟩ := sound.aligned
  unfold alignment at base
  rw [nextOffset, words.align, base]
  unfold Word.roundUp
  omega

theorem Memory.Allocates.rises {memory carved : Memory} {layout : Layout} {place : Place}
    (allocates : memory.Allocates layout (.ok place, carved)) (sound : memory.Sound) (words : layout.Words) :
    Rises memory.arena.cursors carved.arena.cursors layout.size layout.size ∧
      ∀ cursor, memory.arena.cursors[place.region]? = some cursor → cursor ≤ place.offset := by
  cases allocates with
  | @carved index region held _ _ =>
      have offset := Region.nextOffset_of_words (sound.regions region (List.mem_of_getElem? held)) words
      have found := Arena.getElem?_cursors held
      have above := Word.le_roundUp_word region.cursor
      refine ⟨?_, ?_⟩
      · have carved : (memory.withRegions (memory.arena.regions.set index (region.carved layout))).arena.cursors =
            memory.arena.cursors.set index (region.nextOffset layout + layout.size) := List.map_set
        rw [carved, offset]
        apply Rises.set found
        · omega
        · rw [Word.roundUp_word_add words.size]
          exact Nat.add_le_add_right (Word.roundUp_le (by decide) (Word.dvd_roundUp region.cursor 8) (Nat.le_refl _)) _
      · intro cursor other
        rw [found, Option.some.injEq] at other
        rw [← other]
        exact region.cursor_le_nextOffset layout
  | @grown fresh request _ _ made _ =>
      obtain ⟨fine, empty⟩ := Arena.newRegion_sound sound.system made
      have offset := Region.nextOffset_of_words fine words
      have start : Word.roundUp fresh.cursor 8 = 0 := by
        rw [empty]
        rfl
      refine ⟨?_, ?_⟩
      · have carved : (memory.arena.regions ++ [fresh.carved layout]).map Region.cursor =
            memory.arena.cursors ++ [fresh.nextOffset layout + layout.size] := List.map_append
        show Rises _ ((memory.arena.regions ++ [fresh.carved layout]).map Region.cursor) _ _
        rw [carved, offset, start, Nat.zero_add]
        exact .append words.size
      · intro cursor found
        have inside := (List.getElem?_eq_some_iff.mp found).1
        simp only [Arena.cursors, List.length_map] at inside
        omega

/-! ## Growing -/

theorem MemoryM.reallocate_none_done {memory after : Memory} {layout : Layout} {size : Nat} {place : Place}
    (done : reallocate none layout size memory = (.ok place, after)) :
    ∃ resized, layout.resize? size = some resized ∧ allocate resized memory = (.ok place, after) := by
  obtain ⟨resized, found⟩ := resized_of_reallocate done
  rw [reallocate, found] at done
  obtain ⟨new, carved, allocated, returned⟩ := bind_done done
  cases returned
  exact ⟨resized, found, allocated⟩

theorem MemoryM.reallocate_held_done {memory after : Memory} {entry : Entry} {frame : Ledger} {size : Nat}
    {place : Place} (holds : memory.Holds (entry :: frame))
    (done : reallocate (some entry.place) entry.layout size memory = (.ok place, after)) :
    ∃ (resized : Layout) (carved filled : Memory), entry.layout.resize? size = some resized ∧
      allocate resized memory = (.ok place, carved) ∧ filled.arena.outline = carved.arena.outline ∧
      after = filled.reclaimed entry.toBlock := by
  obtain ⟨resized, found⟩ := resized_of_reallocate done
  have moving := done
  rw [reallocate, found] at moving
  obtain ⟨new, carved, allocated, _⟩ := bind_done moving
  obtain ⟨filled, result, outline, _⟩ := reallocate_of_held holds found allocated
  obtain ⟨same, left⟩ := Prod.mk.inj (done.symm.trans result)
  cases same
  exact ⟨resized, carved, filled, found, allocated, outline, left⟩

theorem Memory.cursors_reclaimed (block : Block) (memory : Memory) :
    (memory.reclaimed block).arena.cursors = memory.arena.cursors ∨
      memory.arena.cursors[block.place.region]? = some (block.place.offset + block.layout.size) ∧
        (memory.reclaimed block).arena.cursors = memory.arena.cursors.set block.place.region block.place.offset := by
  by_cases last : 0 < block.layout.size ∧ memory.EndsAtCursor block
  · obtain ⟨positive, region, held, ends⟩ := last
    right
    rw [reclaimed_of_last held positive ends, ends]
    constructor
    · exact Arena.getElem?_cursors held
    · exact List.map_set
  · left
    rw [reclaimed_of_not_last last]

theorem Layout.words_of_array? {α : Type} [Storable α] {layout : Layout} {count : Nat}
    (aligned : (Storable.layoutOf α).align = 8) (found : (Storable.layoutOf α).array? count = some layout) :
    layout.Words ∧ layout.size = count * Storable.widthOf α := by
  obtain ⟨size, align⟩ := array?_eq_some found
  have stride : 8 ∣ Storable.widthOf α := aligned ▸ Storable.stride
  exact ⟨⟨align.trans aligned, size ▸ Nat.dvd_mul_left_of_dvd stride count⟩, size⟩

namespace Buffer

variable {α : Type} [Storable α] {buffer grown : Buffer α} {memory after : Memory} {capacity : Nat}

theorem grow_done (done : buffer.grow capacity memory = (.ok grown, after)) :
    ∃ old new place moved, (Storable.layoutOf α).array? buffer.capacity = some old ∧
      (Storable.layoutOf α).array? capacity = some new ∧
      reallocate buffer.place old new.size memory = (.ok place, moved) ∧
      grown = { buffer with place := some place, capacity } ∧ after.arena = moved.arena := by
  obtain ⟨_, first, expected, large⟩ := bind_done done
  obtain ⟨old, second, before, laid⟩ := bind_done large
  obtain ⟨new, third, behind, moves⟩ := bind_done laid
  obtain ⟨place, moved, moving, noted⟩ := bind_done moves
  obtain rfl : first = memory := (congrArg Prod.snd expected).symm.trans (Still.expect _ _ memory)
  obtain rfl : second = first := (congrArg Prod.snd before).symm.trans (Still.ofRefusal _ first)
  obtain rfl : third = second := (congrArg Prod.snd behind).symm.trans (Still.ofRefusal _ second)
  have had := ofRefusal_yields _ third old (congrArg Prod.fst before)
  have made := ofRefusal_yields _ third new (congrArg Prod.fst behind)
  cases noted
  exact ⟨old, new, place, moved, blockLayout_eq_ok had, blockLayout_eq_ok made, moving, rfl, rfl⟩

theorem resized_words {old new resized : Layout} {few many : Nat} (aligned : (Storable.layoutOf α).align = 8)
    (before : (Storable.layoutOf α).array? few = some old) (behind : (Storable.layoutOf α).array? many = some new)
    (found : old.resize? new.size = some resized) : resized.Words ∧ resized.size = many * Storable.widthOf α :=
  Layout.words_of_array? aligned (Layout.array?_of_resize? before behind found)

inductive Grown (start : List Nat) (buffer : Buffer α) (memory : Memory) : Prop
  | unplaced (nowhere : buffer.place = none) (empty : buffer.capacity = 0)
      (rises : Rises start memory.arena.cursors 0 0)
  | placed {place : Place} (here : buffer.place = some place) (least : leastCapacity ≤ buffer.capacity)
      (carved : ∀ cursor, start[place.region]? = some cursor → cursor ≤ place.offset)
      (rises : Rises start memory.arena.cursors (buffer.capacity * Storable.widthOf α)
        ((2 * buffer.capacity - leastCapacity) * Storable.widthOf α))

variable {start : List Nat} {elements : List α} {ledger : Ledger}

theorem Grown.of_cursors (has : Grown start buffer memory) {next : Buffer α} (place : next.place = buffer.place)
    (capacity : next.capacity = buffer.capacity) (cursors : after.arena.cursors = memory.arena.cursors) :
    Grown start next after := by
  cases has with
  | unplaced nowhere empty rises => exact .unplaced (place.trans nowhere) (capacity.trans empty) (cursors ▸ rises)
  | placed here least carved rises =>
      exact .placed (place.trans here) (capacity ▸ least) carved (capacity ▸ cursors ▸ rises)

omit [Storable α] in
theorem nextCapacity_eq_of_le (enough : leastCapacity ≤ 2 * buffer.capacity)
    (made : nextCapacity buffer.capacity = .ok capacity) : capacity = 2 * buffer.capacity := by
  rw [nextCapacity_eq] at made
  split at made
  · cases made
    simp only [growth, Nat.pow_zero, Nat.mul_one, Nat.max_eq_left enough]
  · cases made

theorem Grown.grow (aligned : (Storable.layoutOf α).align = 8) (has : Grown start buffer memory)
    (stands : buffer.Stands elements ledger) (holds : memory.Holds ledger)
    (made : nextCapacity buffer.capacity = .ok capacity) (done : buffer.grow capacity memory = (.ok grown, after)) :
    Grown start grown after := by
  obtain ⟨old, new, place, moved, before, behind, moving, rfl, arena⟩ := grow_done done
  have least := leastCapacity_le_of_nextCapacity made
  cases has with
  | unplaced nowhere empty rises =>
      rw [nowhere] at moving
      obtain ⟨resized, found, allocated⟩ := reallocate_none_done moving
      obtain ⟨words, size⟩ := resized_words aligned before behind found
      have outcome := Memory.allocate_outcome holds.sound resized
      rw [allocated] at outcome
      obtain ⟨more, above⟩ := outcome.rises holds.sound words
      have first : capacity = leastCapacity := by
        rw [empty] at made
        cases made
        rfl
      have total := rises.trans more
      rw [size, Nat.zero_add, ← arena] at total
      refine .placed rfl least (rises.above above) ?_
      rw [first] at total ⊢
      exact total
  | @placed place here few carved rises =>
      cases stands with
      | unplaced nowhere _ _ _ => cases nowhere.symm.trans here
      | @placed other layout rest there length room laid =>
          cases there.symm.trans here
          cases laid.symm.trans before
          rw [there] at moving
          obtain ⟨resized, between, filled, found, allocated, outline, left⟩ := reallocate_held_done holds moving
          obtain ⟨words, size⟩ := resized_words aligned laid behind found
          have outcome := Memory.allocate_outcome holds.sound resized
          rw [allocated] at outcome
          obtain ⟨more, above⟩ := outcome.rises holds.sound words
          have double : capacity = 2 * buffer.capacity := nextCapacity_eq_of_le (by omega) made
          have most : (2 * buffer.capacity - leastCapacity) * Storable.widthOf α + capacity * Storable.widthOf α =
              (2 * capacity - leastCapacity) * Storable.widthOf α := by
            rw [← Nat.add_mul]
            congr 1
            omega
          -- The old block is still carved here; whether it was given back only decides how low its region ends.
          have total := rises.trans more
          rw [size, most, ← Arena.cursors_eq_of_outline outline] at total
          refine .placed rfl least (rises.above above) ?_
          rw [arena, left]
          rcases Memory.cursors_reclaimed ⟨place, old⟩ filled with same | ⟨held, lowered⟩
          · rw [same]
            exact total.weaken (Nat.le_add_left _ _)
          · rw [lowered]
            rw [(Layout.words_of_array? aligned laid).2] at held
            rw [Nat.add_comm (buffer.capacity * _)] at total
            exact total.giveBack held carved

theorem Grown.push (aligned : (Storable.layoutOf α).align = 8) (has : Grown start buffer memory)
    (stands : buffer.Stands elements ledger) (holds : memory.Holds ledger) {a : α} {next : Buffer α}
    (done : buffer.push a memory = (.ok next, after)) : Grown start next after := by
  have length := stands.length_eq
  have room := stands.room
  by_cases full : buffer.length = buffer.capacity
  · rw [Buffer.push, if_pos full] at done
    obtain ⟨roomy, middle, growing, filling⟩ := bind_done done
    rw [growByOne_of_full full] at growing
    cases made : nextCapacity buffer.capacity with
    | error refusal =>
        rw [made] at growing
        cases growing
    | ok capacity =>
        rw [made] at growing
        have larger := lt_of_nextCapacity made
        obtain ⟨kept, exact⟩ := grow_yields capacity buffer memory roomy (congrArg Prod.fst growing)
        have enough : roomy.length + [a].length ≤ roomy.capacity := by
          rw [List.length_singleton]
          omega
        obtain ⟨last, filled, outline, _⟩ := fill_of_room enough middle
        cases filling.symm.trans filled
        exact (has.grow aligned stands holds made growing).of_cursors rfl rfl (Arena.cursors_eq_of_outline outline)
  · obtain ⟨last, pushed, outline, _⟩ := @push_of_room α _ a buffer (by omega) memory
    cases done.symm.trans pushed
    exact has.of_cursors rfl rfl (Arena.cursors_eq_of_outline outline)

theorem Grown.pushAll (aligned : (Storable.layoutOf α).align = 8) (has : Grown start buffer memory)
    (stands : buffer.Stands elements ledger) (holds : memory.Holds ledger) {more : List α} {last : Buffer α}
    (done : buffer.pushAll more memory = (.ok last, after)) : Grown start last after ∧ after.Sound := by
  induction more generalizing buffer elements ledger memory with
  | nil =>
      cases done
      exact ⟨has, holds.sound⟩
  | cons a rest ih =>
      obtain ⟨next, middle, pushed, others⟩ := bind_done done
      rw [← List.append_nil ledger] at holds
      have outcome := push_triple stands a [] memory holds
      rw [pushed] at outcome
      rw [List.append_nil] at holds
      cases outcome with
      | done _ given held =>
          rw [List.append_nil] at held
          exact ih (has.push aligned stands holds pushed) given held others

theorem withCapacity_rises (aligned : (Storable.layoutOf α).align = 8) (sized : 0 < Storable.widthOf α)
    (sound : memory.Sound) {count : Nat} (done : withCapacity count memory = (.ok buffer, after)) :
    Rises memory.arena.cursors after.arena.cursors (count * Storable.widthOf α) (count * Storable.widthOf α) ∧
      after.Sound := by
  have start : (empty : Buffer α).capacity = 0 := if_neg (Nat.ne_of_gt sized)
  rw [withCapacity, start] at done
  by_cases some : 0 < count
  · rw [if_pos some] at done
    obtain ⟨old, new, place, moved, before, behind, moving, rfl, arena⟩ := grow_done done
    obtain ⟨resized, found, allocated⟩ := reallocate_none_done moving
    obtain ⟨words, size⟩ := resized_words aligned before behind found
    have outcome := Memory.allocate_outcome sound resized
    rw [allocated] at outcome
    have holds := (Memory.Holds.mk sound (by simp) .nil : memory.Holds []).allocated outcome
    obtain ⟨cells, held⟩ := holds
    rw [arena, ← size]
    exact ⟨(outcome.rises sound words).1, (held.of_arena_eq arena).sound⟩
  · rw [if_neg some] at done
    cases done
    rw [Nat.eq_zero_of_not_pos some, Nat.zero_mul]
    exact ⟨.refl _, sound⟩

end Buffer

/-! ## Scopes -/

def scopeRoom (count : Nat) : Nat :=
  if count = 0 then 0 else Buffer.leastCapacity * 2 ^ Nat.clog 2 ((count + 3) / 4)

theorem isLeast_scopeRoom (count : Nat) : IsLeast (Buffer.Fitting 0 [count]) (scopeRoom count) := by
  have four : Buffer.leastCapacity = 4 := rfl
  by_cases none : count = 0
  · refine ⟨⟨⟨0, if_pos none⟩, by simp [none]⟩, fun _ _ => ?_⟩
    rw [scopeRoom, if_pos none]
    exact Nat.zero_le _
  · rw [scopeRoom, if_neg none]
    refine ⟨⟨⟨Nat.clog 2 ((count + 3) / 4) + 1, rfl⟩, ?_⟩, ?_⟩
    · intro required member
      have quarter := Nat.le_pow_clog (by decide : 1 < 2) ((count + 3) / 4)
      rw [List.mem_singleton.mp member, four]
      omega
    · rintro _ ⟨⟨steps, rfl⟩, fits⟩
      have enough := fits count (List.mem_singleton.mpr rfl)
      cases steps with
      | zero => exact absurd (Nat.le_zero.mp enough) none
      | succ steps =>
          have larger : count ≤ 4 * 2 ^ steps := enough
          have quarter : (count + 3) / 4 ≤ 2 ^ steps := by omega
          have exponent := Nat.clog_le_of_le_pow quarter
          exact Nat.mul_le_mul_left _ (Nat.pow_le_pow_right (by decide) exponent)

theorem Scope.bindAll_eq (pairs : List (String × Value)) (scope : Scope) :
    scope.bindAll pairs = do
      return { scope with bindings := ← scope.bindings.pushAll (pairs.map fun pair => ⟨pair.1, pair.2⟩) } := by
  induction pairs generalizing scope with
  | nil => rfl
  | cons pair rest ih => simp only [bindAll, bind, ih, List.map_cons, Buffer.pushAll, bind_assoc, pure_bind]

/-- The bytes of a scope for some bindings that take no more than they must, each of its earlier blocks
being given back. -/
def leastScope (count : Nat) : Nat := 40 * scopeRoom count

def mostScope (count : Nat) : Nat := 40 * (2 * scopeRoom count - 4)

theorem Scope.bindAll_rises {memory after : Memory} {pairs : List (String × Value)} {scope : Scope} (sound : memory.Sound)
    (done : Scope.empty.bindAll pairs memory = (.ok scope, after)) :
    Rises memory.arena.cursors after.arena.cursors (leastScope pairs.length) (mostScope pairs.length) ∧ after.Sound := by
  rw [bindAll_eq] at done
  obtain ⟨last, middle, pushed, returned⟩ := bind_done done
  cases returned
  have start : Buffer.Grown memory.arena.cursors (Buffer.empty : Buffer Binding) memory := .unplaced rfl rfl (.refl _)
  obtain ⟨grown, fine⟩ := start.pushAll rfl Buffer.empty_stands ⟨sound, by simp, .nil⟩ pushed
  obtain ⟨_, made⟩ := Buffer.pushAll_yields _ (Nat.le_refl _) memory last (congrArg Prod.fst pushed)
  have count : (Buffer.empty : Buffer Binding).length + (pairs.map fun pair => (⟨pair.1, pair.2⟩ : Binding)).length =
      pairs.length := by
    rw [List.length_map]
    exact Nat.zero_add _
  have least : IsLeast (Buffer.Fitting 0 [pairs.length]) last.capacity := count ▸ Buffer.capacityWith_isLeast made
  have capacity : scopeRoom pairs.length = last.capacity := (isLeast_scopeRoom _).unique least
  refine ⟨?_, fine⟩
  rw [leastScope, mostScope, capacity, Nat.mul_comm, Nat.mul_comm 40]
  cases grown with
  | unplaced _ empty rises =>
      rw [empty]
      exact rises
  | placed _ _ _ rises => exact rises

/-! ## Acts -/

def Act.bytes (scope : Nat → Nat) : Act → Nat
  | .listed count => 24 * count
  | .entered params => scope params.length
  | _ => 0

theorem Memory.Sound.outline {memory : Memory} (sound : memory.Sound) (log : Log) :
    (⟨memory.arena.outline, log⟩ : Memory).Sound := by
  refine ⟨sound.system, fun region member => ?_⟩
  obtain ⟨other, held, rfl⟩ := List.mem_map.mp member
  have fine := sound.regions other held
  exact ⟨fine.aligned, fine.inSpace, fine.filled⟩

theorem Act.effect_rises {act : Act} {arena outline : Arena} (sound : (⟨arena, #[]⟩ : Memory).Sound)
    (effect : act.effect arena = some outline) :
    Rises arena.cursors outline.cursors (act.bytes leastScope) (act.bytes mostScope) ∧
      (⟨outline, #[]⟩ : Memory).Sound := by
  -- What is laid out rises as a step of memory does; nothing else moves a cursor.
  have laid {α : Type} {step : MemoryM α} {least most : Nat}
      (rises : ∀ a after, step ⟨arena, #[]⟩ = (.ok a, after) →
        Rises arena.cursors after.arena.cursors least most ∧ after.Sound)
      (behind : Arena.after step arena = some outline) :
      Rises arena.cursors outline.cursors least most ∧ (⟨outline, #[]⟩ : Memory).Sound := by
    rw [Arena.after] at behind
    rcases done : step ⟨arena, #[]⟩ with ⟨failure | a, after⟩
    · rw [done] at behind
      cases behind
    · rw [done] at behind
      cases behind
      obtain ⟨higher, fine⟩ := rises a after done
      exact ⟨after.arena.cursors_outline.symm ▸ higher, fine.outline _⟩
  have still (same : some arena = some outline) :
      Rises arena.cursors outline.cursors 0 0 ∧ (⟨outline, #[]⟩ : Memory).Sound := by
    cases same
    exact ⟨.refl _, sound⟩
  cases act with
  | listed count =>
      refine laid (fun buffer after done => ?_) effect
      rw [bytes, bytes, Nat.mul_comm]
      exact Buffer.withCapacity_rises rfl (by decide) sound done
  | entered params =>
      refine laid (fun scope after done => ?_) effect
      have rises := Scope.bindAll_rises sound done
      rw [List.length_map] at rises
      exact rises
  | called => exact still effect
  | performed => exact still effect
  | failed => exact still effect
  | reported => exact still effect

theorem Arena.replay_rises {acts : List Act} {arena outline : Arena} (sound : (⟨arena, #[]⟩ : Memory).Sound)
    (replayed : arena.replay acts = some outline) :
    Rises arena.cursors outline.cursors (acts.map (Act.bytes leastScope)).sum (acts.map (Act.bytes mostScope)).sum := by
  induction acts generalizing arena with
  | nil =>
      cases replayed
      exact .refl _
  | cons act rest ih =>
      rw [replay, List.foldlM_cons] at replayed
      obtain ⟨middle, effect, others⟩ := Option.bind_eq_some_iff.mp replayed
      obtain ⟨rises, fine⟩ := act.effect_rises sound effect
      rw [List.map_cons, List.map_cons, List.sum_cons, List.sum_cons]
      exact rises.trans (ih fine others)

end ArenaLang
