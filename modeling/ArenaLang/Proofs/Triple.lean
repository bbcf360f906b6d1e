import ArenaLang.Proofs.Ledger
import Mathlib.Data.List.Perm.Subperm

namespace ArenaLang

theorem Memory.Holds.subperm {memory : Memory} {ledger part : Ledger} (holds : memory.Holds ledger)
    (subperm : part.Subperm ledger) : memory.Holds part := by
  obtain ⟨other, same, sublist⟩ := subperm
  exact (holds.sublist sublist).perm same

namespace MemoryM

variable {α β : Type} {needs extra : Ledger} {step : MemoryM α} {gives : α → Ledger → Prop}

inductive Outcome (memory : Memory) (frame : Ledger) (gives : α → Ledger → Prop) :
    Except Failure α × Memory → Prop
  | done {a : α} {after : Memory} {ledger : Ledger} (evolves : memory.Evolves after)
      (given : gives a ledger) (holds : after.Holds (ledger ++ frame)) :
      Outcome memory frame gives (.ok a, after)
  | refused {refusal : Refusal} {after : Memory} (evolves : memory.Evolves after)
      (holds : after.Holds frame) : Outcome memory frame gives (.error (.refused refusal), after)

theorem Outcome.of_evolves {memory middle : Memory} {frame : Ledger} {result : Except Failure α × Memory}
    (evolves : memory.Evolves middle) (outcome : Outcome middle frame gives result) :
    Outcome memory frame gives result := by
  cases outcome with
  | done later given holds => exact .done (evolves.trans later) given holds
  | refused later holds => exact .refused (evolves.trans later) holds

def Triple (needs : Ledger) (step : MemoryM α) (gives : α → Ledger → Prop) : Prop :=
  ∀ (frame : Ledger) (memory : Memory), memory.Holds (needs ++ frame) →
    Outcome memory frame gives (step memory)

theorem Triple.pure {a : α} (given : gives a needs) : Triple needs (pure a) gives :=
  fun _ memory holds => .done (.refl memory) given holds

theorem Triple.refuse {refusal : Refusal} : Triple needs (refuse refusal) gives :=
  fun _ memory holds => .refused (.refl memory) holds.right

theorem Triple.bind {next : α → MemoryM β} {last : β → Ledger → Prop} (first : Triple needs step gives)
    (second : ∀ a ledger, gives a ledger → Triple ledger (next a) last) :
    Triple needs (step >>= next) last := by
  intro frame memory holds
  have outcome := first frame memory holds
  rw [bind_apply]
  generalize step memory = result at outcome
  cases outcome with
  | done evolves given held => exact (second _ _ given frame _ held).of_evolves evolves
  | refused evolves held => exact .refused evolves held

theorem Triple.of_lengths
    (triple : (∀ entry ∈ needs, entry.cells.length = entry.layout.size) → Triple needs step gives) :
    Triple needs step gives := by
  intro frame memory holds
  refine triple ?_ frame memory holds
  intro entry member
  obtain ⟨region, _, keeps⟩ := holds.kept entry (List.mem_append_left frame member)
  exact keeps.length

theorem Triple.ends {frame : Ledger} {memory : Memory} (triple : Triple needs step gives)
    (holds : memory.Holds (needs ++ frame)) :
    (∃ refusal, (step memory).1 = .error (.refused refusal)) ∨ ∃ a after, step memory = (.ok a, after) := by
  have outcome := triple frame memory holds
  generalize step memory = result at outcome ⊢
  cases outcome with
  | done _ _ _ => exact .inr ⟨_, _, rfl⟩
  | refused _ _ => exact .inl ⟨_, rfl⟩

theorem Triple.imp {other : α → Ledger → Prop} (triple : Triple needs step gives)
    (weaker : ∀ a ledger, gives a ledger → ∃ part, other a part ∧ part.Subperm ledger) :
    Triple needs step other := by
  intro frame memory holds
  have outcome := triple frame memory holds
  generalize step memory = result at outcome ⊢
  cases outcome with
  | done evolves given held =>
      obtain ⟨part, given, subperm⟩ := weaker _ _ given
      exact .done evolves given (held.subperm ((List.subperm_append_right frame).mpr subperm))
  | refused evolves held => exact .refused evolves held

theorem Triple.mono {other : α → Ledger → Prop} (triple : Triple needs step gives)
    (weaker : ∀ a ledger, gives a ledger → other a ledger) : Triple needs step other :=
  triple.imp fun a ledger given => ⟨ledger, weaker a ledger given, List.Subperm.refl ledger⟩

theorem Triple.perm {other : Ledger} (triple : Triple needs step gives) (same : other.Perm needs) :
    Triple other step gives :=
  fun frame memory holds => triple frame memory (holds.perm (same.append_right frame))

theorem Triple.frame (triple : Triple needs step gives) (extra : Ledger) :
    Triple (needs ++ extra) step fun a ledger => ∃ given, gives a given ∧ ledger = given ++ extra := by
  intro frame memory holds
  have outcome := triple (extra ++ frame) memory (List.append_assoc needs extra frame ▸ holds)
  generalize step memory = result at outcome ⊢
  cases outcome with
  | done evolves given held =>
      exact .done evolves ⟨_, given, rfl⟩ (List.append_assoc _ extra frame ▸ held)
  | refused evolves held => exact .refused evolves held.right

theorem Triple.note {event : Event} (ours : event.ofArena) :
    Triple needs (note event) fun _ ledger => ledger = needs :=
  fun _ _ holds => .done (.note ours) rfl (holds.of_arena_eq rfl)

end MemoryM

/-! ## Steps of the arena -/

theorem map_set_of_eq {α β : Type*} {f : α → β} {elements : List α} {index : Nat} {a other : α}
    (held : elements[index]? = some a) (same : f other = f a) :
    (elements.set index other).map f = elements.map f := by
  apply List.ext_getElem?
  intro position
  rw [List.getElem?_map, List.getElem?_map, List.getElem?_set]
  grind

namespace Memory

variable {memory after : Memory} {layout : Layout} {place : Place}

theorem Evolves.set {index : Nat} {region other : Region}
    (held : memory.arena.regions[index]? = some region) (same : other.extent = region.extent) :
    memory.Evolves (memory.withRegions (memory.arena.regions.set index other)) :=
  .withRegions (map_set_of_eq held same ▸ List.prefix_rfl)

theorem Allocates.evolves {result : Except Failure Place} (outcome : memory.Allocates layout (result, after)) :
    memory.Evolves after := by
  cases outcome with
  | carved held _ _ => exact .set held rfl
  | @grown fresh request _ _ _ _ =>
      have longer : memory.Evolves (memory.withRegions (memory.arena.regions ++ [fresh.carved layout])) :=
        .withRegions (List.map_append ▸ List.prefix_append _ _)
      exact longer.trans (.note rfl)
  | refused _ => exact .refl memory

theorem Evolves.reclaimed (block : Block) (memory : Memory) : memory.Evolves (memory.reclaimed block) := by
  unfold Memory.reclaimed
  cases held : memory.arena.regions[block.place.region]? with
  | none => exact .refl memory
  | some region =>
      simp only
      split
      · have rewound : memory.Evolves (memory.withRegions (memory.arena.regions.set block.place.region
            { region with cursor := block.place.offset })) := .set held rfl
        exact rewound.trans (.note rfl)
      · exact .refl memory

theorem Evolves.write (region offset : Nat) (cells : List Cell) (memory : Memory) :
    memory.Evolves (memory.withRegions (memory.arena.regions.modify region (·.write offset cells))) := by
  cases held : memory.arena.regions[region]? with
  | none =>
      rw [List.modify_eq_self (List.getElem?_eq_none_iff.mp held)]
      exact .withRegions List.prefix_rfl
  | some found =>
      rw [modify_eq_set _ held]
      exact .set held rfl

end Memory

namespace MemoryM

variable {entry : Entry} {layout : Layout}

theorem allocate_triple (layout : Layout) :
    Triple [] (allocate layout) fun place ledger => ∃ cells, ledger = [⟨⟨place, layout⟩, cells⟩] := by
  intro frame memory holds
  have outcome := Memory.allocate_outcome holds.sound layout
  generalize allocate layout memory = result at outcome ⊢
  obtain ⟨value, after⟩ := result
  cases value with
  | ok place =>
      obtain ⟨cells, held⟩ := Memory.Holds.allocated holds outcome
      exact .done outcome.evolves ⟨cells, rfl⟩ held
  | error failure =>
      cases outcome with
      | refused _ => exact .refused (.refl memory) holds

theorem write_triple (entry : Entry) {offset : Nat} {cells : List Cell} (fits : offset + cells.length ≤ entry.layout.size) :
    Triple [entry] (write ⟨entry.place.region, entry.place.offset + offset⟩ cells)
      fun _ ledger => ledger = [entry.patch offset cells] :=
  fun _ memory holds => .done (Memory.Evolves.write _ _ cells memory) rfl (Memory.Holds.write holds fits)

theorem read_triple {offset count : Nat} (fits : offset + count ≤ entry.layout.size) :
    Triple [entry] (read ⟨entry.place.region, entry.place.offset + offset⟩ count)
      fun cells ledger => cells = (entry.cells.drop offset).take count ∧ ledger = [entry] := by
  intro frame memory holds
  rw [Memory.Holds.read holds fits]
  exact .done (.refl memory) ⟨rfl, rfl⟩ holds

theorem reclaim_triple (positive : 0 < entry.layout.size) :
    Triple [entry] (reclaim entry.place entry.layout.size) fun _ ledger => ledger = [] := by
  intro frame memory holds
  rw [Memory.Holds.reclaim_apply holds positive]
  exact .done (.reclaimed _ memory) rfl holds.reclaimed

theorem release_triple {place : Place} (entry new : Entry) :
    Triple [new, entry]
      (if 0 < entry.layout.size then do
        reclaim entry.place entry.layout.size
        return place
      else return place)
      fun moved ledger => moved = place ∧ ledger = [new] := by
  by_cases positive : 0 < entry.layout.size
  · rw [if_pos positive]
    apply Triple.bind (((reclaim_triple positive).frame [new]).perm (List.Perm.swap _ _ _))
    rintro _ _ ⟨_, rfl, rfl⟩
    exact .pure ⟨rfl, rfl⟩
  · rw [if_neg positive]
    have kept : Triple [new, entry] (pure place) fun moved ledger => moved = place ∧ ledger = [new, entry] :=
      .pure ⟨rfl, rfl⟩
    apply kept.imp
    rintro moved _ ⟨rfl, rfl⟩
    exact ⟨[new], ⟨rfl, rfl⟩, ((List.nil_sublist _).cons_cons new).subperm⟩

theorem copy_triple (entry new : Entry) {count : Nat} (length : entry.cells.length = entry.layout.size)
    (source : count ≤ entry.layout.size) (target : count ≤ new.layout.size) :
    Triple [new, entry] (do write new.place (← read entry.place count)) fun _ ledger =>
      ledger = [new.patch 0 (entry.cells.take count), entry] := by
  have part : 0 + count ≤ entry.layout.size := by omega
  have reading := read_triple part
  apply Triple.bind ((reading.frame [new]).perm (List.Perm.swap _ _ _))
  rintro _ _ ⟨_, ⟨rfl, rfl⟩, rfl⟩
  have fits : 0 + (entry.cells.take count).length ≤ new.layout.size := by
    rw [List.length_take]
    omega
  apply (((write_triple new fits).frame [entry]).perm (List.Perm.swap _ _ _)).mono
  rintro _ _ ⟨_, rfl, rfl⟩
  rfl

theorem take_patch {count : Nat} {new cells : List Cell} (length : new.length = count) :
    (patch 0 new cells).take count = new := by
  rw [patch, List.take_zero, List.nil_append, ← length, List.take_left]

theorem reallocate_triple (entry : Entry) (size : Nat) :
    Triple [entry] (reallocate (some entry.place) entry.layout size) fun place ledger =>
      ∃ layout cells, entry.layout.resize? size = some layout ∧ ledger = [⟨⟨place, layout⟩, cells⟩] ∧
        cells.take (min entry.layout.size size) = entry.cells.take (min entry.layout.size size) := by
  apply Triple.of_lengths
  intro lengths
  have length := lengths entry List.mem_cons_self
  rw [reallocate]
  cases resized : entry.layout.resize? size with
  | none => exact .refuse
  | some layout =>
      obtain ⟨sized, _⟩ := Layout.of?_eq_some_iff.mp resized
      -- The old entry is listed while the new block is carved, so the two are apart.
      apply Triple.bind ((allocate_triple layout).frame [entry])
      rintro place _ ⟨_, ⟨cells, rfl⟩, rfl⟩
      simp only [List.cons_append, List.nil_append]
      by_cases copied : 0 < min entry.layout.size size
      · rw [if_pos copied]
        have copy := copy_triple entry ⟨⟨place, layout⟩, cells⟩ length (Nat.min_le_left _ size)
          (sized ▸ Nat.min_le_right _ _)
        rw [← bind_assoc]
        apply Triple.bind copy
        rintro _ _ rfl
        apply (release_triple entry _).mono
        rintro moved _ ⟨rfl, rfl⟩
        refine ⟨layout, _, rfl, rfl, take_patch ?_⟩
        rw [List.length_take]
        omega
      · rw [if_neg copied]
        apply (release_triple entry _).mono
        rintro moved _ ⟨rfl, rfl⟩
        refine ⟨layout, cells, rfl, rfl, ?_⟩
        rw [Nat.eq_zero_of_not_pos copied, List.take_zero, List.take_zero]

theorem reallocate_none_triple (layout : Layout) (size : Nat) :
    Triple [] (reallocate none layout size) fun place ledger =>
      ∃ resized cells, layout.resize? size = some resized ∧ ledger = [⟨⟨place, resized⟩, cells⟩] := by
  rw [reallocate]
  cases found : layout.resize? size with
  | none => exact .refuse
  | some resized =>
      apply Triple.bind (allocate_triple resized)
      rintro place _ ⟨cells, rfl⟩
      exact .pure ⟨resized, cells, rfl, rfl⟩

end MemoryM

end ArenaLang
