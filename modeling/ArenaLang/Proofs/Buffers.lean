import ArenaLang.Arena.Buffer
import ArenaLang.Proofs.Refusal
import ArenaLang.Proofs.Storing

namespace ArenaLang

namespace Buffer

open MemoryM

variable {α : Type} [Storable α]

inductive Stands (buffer : Buffer α) (elements : List α) : Ledger → Prop
  | unplaced (nowhere : buffer.place = none) (length : buffer.length = elements.length)
      (room : elements.length ≤ buffer.capacity) (empty : buffer.capacity * Storable.widthOf α = 0) :
      Stands buffer elements []
  | placed {place : Place} {layout : Layout} {behind : List Cell} (here : buffer.place = some place)
      (length : buffer.length = elements.length) (room : elements.length ≤ buffer.capacity)
      (found : (Storable.layoutOf α).array? buffer.capacity = some layout) :
      Stands buffer elements [⟨⟨place, layout⟩, Storable.encodeAll elements ++ behind⟩]

theorem Stands.length_eq {buffer : Buffer α} {elements : List α} {ledger : Ledger}
    (stands : buffer.Stands elements ledger) : buffer.length = elements.length := by
  cases stands with
  | unplaced _ length _ _ => exact length
  | placed _ length _ _ => exact length

theorem Stands.room {buffer : Buffer α} {elements : List α} {ledger : Ledger}
    (stands : buffer.Stands elements ledger) : elements.length ≤ buffer.capacity := by
  cases stands with
  | unplaced _ _ room _ => exact room
  | placed _ _ room _ => exact room

theorem empty_stands : (empty : Buffer α).Stands [] [] := by
  refine .unplaced rfl rfl (Nat.zero_le _) ?_
  by_cases sizeless : Storable.widthOf α = 0
  · rw [sizeless, Nat.mul_zero]
  · simp only [empty, if_neg sizeless, Nat.zero_mul]

theorem width_fits {layout : Layout} {count capacity : Nat}
    (found : (Storable.layoutOf α).array? capacity = some layout) (room : count ≤ capacity) :
    count * Storable.widthOf α ≤ layout.size := by
  rw [(Layout.array?_eq_some found).1]
  exact Nat.mul_le_mul_right _ room

theorem encodeAll_eq_nil {elements : List α} {capacity : Nat} (room : elements.length ≤ capacity)
    (empty : capacity * Storable.widthOf α = 0) : Storable.encodeAll elements = [] := by
  apply List.eq_nil_of_length_eq_zero
  have bound := Nat.mul_le_mul_right (Storable.widthOf α) room
  rw [Storable.length_encodeAll]
  omega

/-! ## Growing -/

theorem blockLayout_eq_ok {capacity : Nat} {layout : Layout} (made : blockLayout α capacity = .ok layout) :
    (Storable.layoutOf α).array? capacity = some layout := by
  unfold blockLayout at made
  split at made
  · cases made
  · cases made
    assumption

theorem ofRefusal_triple {β : Type} {needs : Ledger} (result : Except Refusal β) :
    Triple needs (ofRefusal result) fun b ledger => result = .ok b ∧ ledger = needs := by
  cases result with
  | ok b => exact .pure ⟨rfl, rfl⟩
  | error refusal => exact .refuse

theorem expect_triple {needs : Ledger} {condition : Bool} {fault : Fault} (holds : condition = true) :
    Triple needs (expect condition fault) fun _ ledger => ledger = needs := by
  rw [expect, if_pos holds]
  exact .pure rfl

theorem moved_triple {buffer : Buffer α} {elements : List α} {ledger : Ledger} {old new : Layout}
    {capacity : Nat} (stands : buffer.Stands elements ledger) (larger : buffer.capacity ≤ capacity)
    (before : (Storable.layoutOf α).array? buffer.capacity = some old)
    (after : (Storable.layoutOf α).array? capacity = some new) :
    Triple ledger (reallocate buffer.place old new.size) fun place given =>
      Stands { buffer with place := some place, capacity } elements given := by
  cases stands with
  | unplaced nowhere length room empty =>
      rw [nowhere]
      apply (reallocate_none_triple old new.size).mono
      rintro place _ ⟨layout, cells, resized, rfl⟩
      have front : Storable.encodeAll elements = [] := encodeAll_eq_nil room empty
      have split : cells = Storable.encodeAll elements ++ cells := by rw [front, List.nil_append]
      rw [split]
      exact .placed rfl length (Nat.le_trans room larger) (Layout.array?_of_resize? before after resized)
  | @placed place layout behind here length room found =>
      rw [found, Option.some.injEq] at before
      subst before
      rw [here]
      apply Triple.of_lengths
      intro lengths
      -- Room behind the elements has unknown cells, which are copied with the rest of the block.
      have whole : (Storable.encodeAll elements ++ behind).length = layout.size :=
        lengths _ List.mem_cons_self
      apply (reallocate_triple ⟨⟨place, layout⟩, Storable.encodeAll elements ++ behind⟩ new.size).mono
      rintro place _ ⟨resized, cells, resizing, rfl, kept⟩
      have grown : layout.size ≤ new.size := by
        rw [(Layout.array?_eq_some found).1]
        exact width_fits after larger
      rw [Nat.min_eq_left grown, List.take_of_length_le (Nat.le_of_eq whole)] at kept
      have front : cells.take layout.size = Storable.encodeAll elements ++ behind := kept
      have split : cells = Storable.encodeAll elements ++ (behind ++ cells.drop layout.size) := by
        rw [← List.append_assoc, ← front, List.take_append_drop]
      rw [split]
      exact .placed rfl length (Nat.le_trans room larger) (Layout.array?_of_resize? found after resizing)

theorem grow_triple {buffer : Buffer α} {elements : List α} {ledger : Ledger} {capacity : Nat}
    (stands : buffer.Stands elements ledger) (larger : buffer.capacity < capacity) :
    Triple ledger (buffer.grow capacity) fun grown given =>
      grown.Stands elements given ∧ grown.length = buffer.length ∧ grown.capacity = capacity := by
  apply Triple.bind (expect_triple (decide_eq_true larger))
  rintro _ _ rfl
  apply Triple.bind (ofRefusal_triple _)
  rintro old _ ⟨before, rfl⟩
  apply Triple.bind (ofRefusal_triple _)
  rintro new _ ⟨after, rfl⟩
  apply Triple.bind (moved_triple stands (Nat.le_of_lt larger) (blockLayout_eq_ok before)
    (blockLayout_eq_ok after))
  intro place given moved
  apply Triple.bind (Triple.note rfl)
  rintro _ _ rfl
  exact .pure ⟨moved, rfl, rfl⟩

theorem withCapacity_roomy_triple (capacity : Nat) :
    Triple [] (withCapacity capacity : MemoryM (Buffer α)) fun buffer given =>
      buffer.Stands [] given ∧ capacity ≤ buffer.capacity := by
  unfold withCapacity
  split
  · rename_i larger
    apply (grow_triple empty_stands larger).mono
    intro buffer given ⟨stands, _, exact⟩
    exact ⟨stands, Nat.le_of_eq exact.symm⟩
  · rename_i enough
    exact .pure ⟨empty_stands, Nat.not_lt.mp enough⟩

theorem withCapacity_triple (capacity : Nat) :
    Triple [] (withCapacity capacity : MemoryM (Buffer α)) fun buffer given => buffer.Stands [] given :=
  (withCapacity_roomy_triple capacity).mono fun _ _ made => made.1

theorem lt_of_nextCapacity {capacity next : Nat} (made : nextCapacity capacity = .ok next) :
    capacity < next := by
  unfold nextCapacity leastCapacity Word.mul? at made
  grind

theorem le_of_doubleUntil {required capacity : Nat} {positive : 0 < capacity} {last : Nat}
    (made : doubleUntil required capacity positive = .ok last) : required ≤ last := by
  fun_induction doubleUntil required capacity positive with
  | case1 capacity positive below small ih => exact ih made
  | case2 => cases made
  | case3 capacity positive enough =>
      cases made
      omega

theorem le_of_capacityFor {required capacity next : Nat} (made : capacityFor required capacity = .ok next) :
    required ≤ next := by
  unfold capacityFor at made
  split at made
  · cases made
  · exact le_of_doubleUntil made

theorem growByOne_triple {buffer : Buffer α} {elements : List α} {ledger : Ledger}
    (stands : buffer.Stands elements ledger) (full : buffer.length = buffer.capacity) :
    Triple ledger buffer.growByOne fun grown given =>
      grown.Stands elements given ∧ elements.length + 1 ≤ grown.capacity := by
  apply Triple.bind (expect_triple (decide_eq_true full))
  rintro _ _ rfl
  apply Triple.bind (ofRefusal_triple _)
  rintro next _ ⟨made, rfl⟩
  have larger := lt_of_nextCapacity made
  apply (grow_triple stands larger).mono
  rintro grown given ⟨grownStands, length, capacity⟩
  have room := stands.room
  exact ⟨grownStands, by omega⟩

theorem reserve_triple {buffer : Buffer α} {elements : List α} {ledger : Ledger}
    (stands : buffer.Stands elements ledger) (additional : Nat) :
    Triple ledger (buffer.reserve additional) fun roomy given =>
      roomy.Stands elements given ∧ elements.length + additional ≤ roomy.capacity := by
  have length := stands.length_eq
  unfold reserve
  cases sum : Word.add? buffer.length additional with
  | none => exact .refuse
  | some required =>
      have total : buffer.length + additional = required := by
        unfold Word.add? at sum
        grind
      simp only
      split
      · exact .pure ⟨stands, by omega⟩
      · apply Triple.bind (ofRefusal_triple _)
        rintro capacity _ ⟨made, rfl⟩
        have enough := le_of_capacityFor made
        apply (grow_triple stands (by omega)).mono
        rintro grown given ⟨grownStands, _, capacity⟩
        exact ⟨grownStands, by omega⟩

/-! ## Filling -/

theorem encodeAll_append (elements more : List α) :
    Storable.encodeAll (elements ++ more) = Storable.encodeAll elements ++ Storable.encodeAll more :=
  List.flatMap_append

theorem patch_behind (front new behind : List Cell) :
    patch front.length new (front ++ behind) = (front ++ new) ++ behind.drop new.length := by
  rw [patch, List.take_left, ← List.drop_drop, List.drop_left]

theorem fill_triple {buffer : Buffer α} {elements more : List α} {ledger : Ledger}
    (stands : buffer.Stands elements ledger) (room : elements.length + more.length ≤ buffer.capacity) :
    Triple ledger (buffer.fill more) fun filled given =>
      filled.Stands (elements ++ more) given ∧ filled.capacity = buffer.capacity := by
  have length := stands.length_eq
  have enough : (decide (buffer.length + more.length ≤ buffer.capacity)) = true :=
    decide_eq_true (by omega)
  apply Triple.bind (expect_triple enough)
  rintro _ _ rfl
  have total : (elements ++ more).length = elements.length + more.length := List.length_append
  cases stands with
  | unplaced nowhere _ _ empty =>
      rw [nowhere]
      refine .pure ⟨.unplaced rfl ?_ ?_ empty, rfl⟩
      · simp only
        omega
      · exact total ▸ room
  | @placed place layout behind here _ _ found =>
      rw [here]
      have front := Storable.length_encodeAll elements
      have back := Storable.length_encodeAll more
      have fits : (Storable.encodeAll elements).length + (Storable.encodeAll more).length ≤ layout.size := by
        rw [front, back, ← Nat.add_mul]
        exact width_fits found room
      have writing := write_triple ⟨⟨place, layout⟩, Storable.encodeAll elements ++ behind⟩ fits
      rw [front, ← length] at writing
      apply Triple.bind writing
      rintro _ _ rfl
      apply Triple.pure
      rw [Entry.patch, length, ← front, patch_behind, ← encodeAll_append]
      refine ⟨.placed rfl ?_ ?_ found, rfl⟩
      · simp only
        omega
      · exact total ▸ room

theorem push_roomy_triple {buffer : Buffer α} {elements : List α} {ledger : Ledger}
    (stands : buffer.Stands elements ledger) (a : α) (room : elements.length < buffer.capacity) :
    Triple ledger (buffer.push a) fun next given =>
      next.Stands (elements ++ [a]) given ∧ next.capacity = buffer.capacity := by
  have notFull : buffer.length ≠ buffer.capacity := by
    rw [stands.length_eq]
    exact Nat.ne_of_lt room
  unfold push
  rw [if_neg notFull]
  exact fill_triple stands room

theorem push_triple {buffer : Buffer α} {elements : List α} {ledger : Ledger}
    (stands : buffer.Stands elements ledger) (a : α) :
    Triple ledger (buffer.push a) fun next given => next.Stands (elements ++ [a]) given := by
  have length := stands.length_eq
  have room := stands.room
  unfold push
  split
  · rename_i full
    apply Triple.bind (growByOne_triple stands full)
    intro roomy given ⟨stands, room⟩
    have enough : elements.length + [a].length ≤ roomy.capacity := room
    exact (fill_triple stands enough).mono fun _ _ filled => filled.1
  · have enough : elements.length < buffer.capacity := by omega
    have appended := push_roomy_triple stands a enough
    rw [push, if_neg ‹_›] at appended
    exact appended.mono fun _ _ pushed => pushed.1

theorem extend_triple {buffer : Buffer α} {elements : List α} {ledger : Ledger}
    (stands : buffer.Stands elements ledger) (more : List α) :
    Triple ledger (buffer.extend more) fun next given => next.Stands (elements ++ more) given := by
  apply Triple.bind (reserve_triple stands more.length)
  rintro roomy given ⟨stands, room⟩
  exact (fill_triple stands room).mono fun _ _ filled => filled.1

theorem pushAll_triple {buffer : Buffer α} {elements : List α} {ledger : Ledger}
    (stands : buffer.Stands elements ledger) (more : List α) :
    Triple ledger (buffer.pushAll more) fun next given => next.Stands (elements ++ more) given := by
  induction more generalizing buffer elements ledger with
  | nil => exact .pure ((List.append_nil elements).symm ▸ stands)
  | cons a rest ih =>
      apply Triple.bind (push_triple stands a)
      intro next given pushed
      have grown := ih pushed
      rw [List.append_assoc, List.singleton_append] at grown
      exact grown

/-! ## Reading -/

theorem Stands.loads {buffer : Buffer α} {elements : List α} {ledger : Ledger}
    (stands : buffer.Stands elements ledger) : Loads ledger (loadAll α buffer.toSlice) elements := by
  intro memory holds
  have reading : readSlice (Storable.widthOf α) buffer.toSlice memory =
      (.ok (Storable.encodeAll elements), memory) := by
    cases stands with
    | unplaced nowhere length room empty =>
        rw [readSlice, toSlice, nowhere, encodeAll_eq_nil room empty]
        rfl
    | @placed place layout behind here length room found =>
        have size := Storable.length_encodeAll elements
        have fits : 0 + elements.length * Storable.widthOf α ≤ layout.size := by
          rw [Nat.zero_add]
          exact width_fits found room
        have whole := Memory.Holds.read holds fits
        rw [List.drop_zero, ← size, List.take_left, size, ← length] at whole
        rw [readSlice, toSlice, here]
        exact whole
  have decoded := Storable.decodeAll?_encodeAll elements []
  rw [List.append_nil, ← stands.length_eq] at decoded
  rw [loadAll, bind_ok reading, toSlice, decoded]
  rfl

theorem Stands.toList_triple {buffer : Buffer α} {elements : List α} {ledger : Ledger}
    (stands : buffer.Stands elements ledger) :
    Triple ledger buffer.toList fun found given => found = elements ∧ given = ledger :=
  stands.loads.triple

/-! ## Refusals -/

theorem Still.expect (condition : Bool) (fault : Fault) : Still (expect condition fault) := by
  intro memory
  cases condition <;> rfl

theorem Still.ofRefusal {β : Type} (result : Except Refusal β) : Still (ofRefusal result) := by
  intro memory
  cases result <;> rfl

theorem grow_atomic (capacity : Nat) (buffer : Buffer α) : Atomic (buffer.grow capacity) := by
  apply (Still.expect _ _).then_atomic
  intro _
  apply (Still.ofRefusal _).then_atomic
  intro old
  apply (Still.ofRefusal _).then_atomic
  intro new
  apply (reallocate_atomic _ _ _).then_steady
  intro place
  exact (Steady.note _).bind fun _ => .pure _

theorem fill_steady (elements : List α) (buffer : Buffer α) : Steady (buffer.fill elements) := by
  have expected : Steady (Buffer.expect (decide (buffer.length + elements.length ≤ buffer.capacity))
      .behindBuffer) := by
    unfold Buffer.expect
    split
    · exact .pure _
    · exact .faulty _
  apply expected.bind
  intro _
  cases buffer.place with
  | none => exact .pure _
  | some place => exact (write_steady _ _).bind fun _ => .pure _

theorem push_atomic (a : α) (buffer : Buffer α) : Atomic (buffer.push a) := by
  have grown : Atomic buffer.growByOne := by
    apply (Still.expect _ _).then_atomic
    intro _
    exact (Still.ofRefusal _).then_atomic fun capacity => grow_atomic capacity buffer
  unfold push
  split
  · exact grown.then_steady fun roomy => fill_steady [a] roomy
  · exact (fill_steady [a] buffer).atomic

theorem reserve_atomic (additional : Nat) (buffer : Buffer α) : Atomic (buffer.reserve additional) := by
  unfold reserve
  cases Word.add? buffer.length additional with
  | none => exact (Still.refuse _).atomic
  | some required =>
      simp only
      split
      · exact (Still.pure _).atomic
      · exact (Still.ofRefusal _).then_atomic fun capacity => grow_atomic capacity buffer

theorem extend_atomic (elements : List α) (buffer : Buffer α) : Atomic (buffer.extend elements) :=
  (reserve_atomic _ buffer).then_steady fun roomy => fill_steady elements roomy

theorem withCapacity_atomic (capacity : Nat) : Atomic (withCapacity capacity : MemoryM (Buffer α)) := by
  unfold withCapacity
  split
  · exact grow_atomic capacity empty
  · exact (Still.pure _).atomic

end Buffer

end ArenaLang
