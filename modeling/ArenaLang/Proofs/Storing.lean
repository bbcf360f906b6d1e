import ArenaLang.Arena.Store
import ArenaLang.Proofs.Triple

namespace ArenaLang

theorem patch_whole {new cells : List Cell} (length : new.length = cells.length) :
    patch 0 new cells = new := by
  rw [patch, List.take_zero, List.nil_append, Nat.zero_add, length, List.drop_length, List.append_nil]

namespace Layout

theorem array?_eq_some {element layout : Layout} {count : Nat} (found : element.array? count = some layout) :
    layout.size = count * element.size ∧ layout.align = element.align :=
  of?_eq_some_iff.mp found

theorem resize?_eq_some {layout resized : Layout} {size : Nat} (found : layout.resize? size = some resized) :
    resized.size = size ∧ resized.align = layout.align :=
  of?_eq_some_iff.mp found

theorem array?_of_resize? {element old new layout : Layout} {few many : Nat}
    (before : element.array? few = some old) (after : element.array? many = some new)
    (resized : old.resize? new.size = some layout) : element.array? many = some layout := by
  obtain ⟨size, align⟩ := resize?_eq_some resized
  exact of?_eq_some_iff.mpr
    ⟨size.trans (array?_eq_some after).1, align.trans (array?_eq_some before).2⟩

end Layout

namespace MemoryM

section

variable {α β : Type} {ledger : Ledger} {step : MemoryM α} {a : α}

def Loads (ledger : Ledger) (step : MemoryM α) (a : α) : Prop :=
  ∀ memory : Memory, memory.Holds ledger → step memory = (.ok a, memory)

theorem Loads.pure : Loads ledger (pure a) a := fun _ _ => rfl

theorem Loads.bind {next : α → MemoryM β} {b : β} (first : Loads ledger step a) (second : Loads ledger (next a) b) :
    Loads ledger (step >>= next) b := by
  intro memory holds
  rw [bind_ok (first memory holds)]
  exact second memory holds

theorem Loads.mono {part : Ledger} (loads : Loads part step a) (sublist : part.Sublist ledger) :
    Loads ledger step a :=
  fun memory holds => loads memory (holds.sublist sublist)

theorem Loads.left {part rest : Ledger} (loads : Loads part step a) : Loads (part ++ rest) step a :=
  loads.mono (List.sublist_append_left part rest)

theorem Loads.right {part front : Ledger} (loads : Loads part step a) : Loads (front ++ part) step a :=
  loads.mono (List.sublist_append_right front part)

theorem Loads.triple (loads : Loads ledger step a) :
    Triple ledger step fun b given => b = a ∧ given = ledger := by
  intro frame memory holds
  rw [loads memory holds.left]
  exact .done (.refl memory) ⟨rfl, rfl⟩ holds

end

variable {α : Type} [Storable α]

theorem fill_triple {β : Type} (make : Place → β) {layout : Layout} {cells : List Cell}
    (length : cells.length = layout.size) :
    Triple [] (do
      let place ← allocate layout
      write place cells
      return make place)
      fun made ledger => ∃ place, made = make place ∧ ledger = [⟨⟨place, layout⟩, cells⟩] := by
  apply Triple.bind (allocate_triple layout)
  rintro place _ ⟨old, rfl⟩
  apply Triple.of_lengths
  intro lengths
  have same : old.length = layout.size := lengths _ List.mem_cons_self
  have fits : 0 + cells.length ≤ layout.size := by omega
  apply Triple.bind (write_triple ⟨⟨place, layout⟩, old⟩ fits)
  rintro _ _ rfl
  refine .pure ⟨place, rfl, ?_⟩
  rw [Entry.patch, patch_whole (length.trans same.symm)]

theorem store_triple (a : α) :
    Triple [] (store a) fun place ledger =>
      ledger = [⟨⟨place, Storable.layoutOf α⟩, Storable.encode a⟩] := by
  apply (fill_triple id (Storable.length_encode a)).mono
  rintro _ _ ⟨place, rfl, rfl⟩
  rfl

inductive Row (elements : List α) : Slice → Ledger → Prop
  | row {place : Place} {layout : Layout}
      (found : (Storable.layoutOf α).array? elements.length = some layout) :
      Row elements ⟨some place, elements.length⟩ [⟨⟨place, layout⟩, Storable.encodeAll elements⟩]

theorem storeAll_triple (elements : List α) : Triple [] (storeAll elements) (Row elements) := by
  unfold storeAll
  cases found : (Storable.layoutOf α).array? elements.length with
  | none => exact .refuse
  | some layout =>
      have length : (Storable.encodeAll elements).length = layout.size := by
        rw [Storable.length_encodeAll, (Layout.array?_eq_some found).1]
        rfl
      apply (fill_triple (fun place => (⟨some place, elements.length⟩ : Slice)) length).mono
      rintro _ _ ⟨place, rfl, rfl⟩
      exact .row found

theorem Row.loads {elements : List α} {slice : Slice} {ledger : Ledger} (row : Row elements slice ledger) :
    Loads ledger (loadAll α slice) elements := by
  obtain ⟨found⟩ := row
  rename_i place layout
  intro memory holds
  have reading : readSlice (Storable.widthOf α) ⟨some place, elements.length⟩ memory =
      (.ok (Storable.encodeAll elements), memory) := by
    have whole := Memory.Holds.read_all holds
    rwa [(Layout.array?_eq_some found).1] at whole
  have decoded := Storable.decodeAll?_encodeAll elements []
  rw [List.append_nil] at decoded
  rw [loadAll, bind_ok reading, decoded]
  rfl

end MemoryM

end ArenaLang
