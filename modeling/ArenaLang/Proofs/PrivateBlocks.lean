import ArenaLang.Proofs.Client

/-!
# Private blocks

An ideal store keeps the cells of each block apart from all others. It knows nothing of regions,
cursors and alignment: what a new block contains is open, and from then on only writes to this very
block change it. Every run of a client on an arena is a run of the ideal store with the same
replies, so an arena that hands out the same bytes again and again cannot be told from one that
never does.
-/

namespace ArenaLang

/-- The cells of every block made so far; those of a block given up are gone. -/
abbrev PrivateStore := List (Option (List Cell))

def Operation.Allocates : Operation → Prop
  | .write .. | .read _ => False
  | _ => True

namespace PrivateStore

def cells? (number : Nat) (store : PrivateStore) : Option (List Cell) := store[number]?.join

def Allows (store : PrivateStore) : Operation → Prop
  | .write number offset cells => ∃ old, store.cells? number = some old ∧ offset + cells.length ≤ old.length
  | .read number | .reallocate number _ => ∃ old, store.cells? number = some old
  | _ => True

inductive Step (store : PrivateStore) : Operation → Reply → PrivateStore → Prop
  | allocated {layout : Layout} {cells : List Cell} (length : cells.length = layout.size) :
      Step store (.allocate layout) (.made store.length) (store ++ [some cells])
  | stored {α : Type} [Storable α] (a : α) :
      Step store (.store a) (.made store.length) (store ++ [some (Storable.encode a)])
  | storedAll {α : Type} [Storable α] (elements : List α) :
      Step store (.storeAll elements) (.made store.length) (store ++ [some (Storable.encodeAll elements)])
  | storedText (s : String) :
      Step store (.storeText s) (.made store.length) (store ++ [some (Storable.encodeAll (utf8 s))])
  | written {number offset : Nat} {old cells : List Cell} (held : store.cells? number = some old)
      (fits : offset + cells.length ≤ old.length) :
      Step store (.write number offset cells) .written (store.set number (some (patch offset cells old)))
  | read {number : Nat} {cells : List Cell} (held : store.cells? number = some cells) :
      Step store (.read number) (.cells cells) store
  | reallocated {number size : Nat} {old new : List Cell} (held : store.cells? number = some old)
      (length : new.length = size) (kept : new.take (min old.length size) = old.take (min old.length size)) :
      Step store (.reallocate number size) (.made store.length) (store.set number none ++ [some new])
  | reallocatedEmpty {layout : Layout} {empty : layout.size = 0} {size : Nat} {new : List Cell}
      (length : new.length = size) :
      Step store (.reallocateEmpty layout empty size) (.made store.length) (store ++ [some new])
  | refused {operation : Operation} {refusal : Refusal} (allocates : operation.Allocates)
      (allowed : store.Allows operation) : Step store operation (.refused refusal) store
  | misused {operation : Operation} (broken : ¬store.Allows operation) : Step store operation .misused store

inductive Run : PrivateStore → List Operation → List Reply → PrivateStore → Prop
  | nil {store : PrivateStore} : Run store [] [] store
  | cons {store next last : PrivateStore} {operation : Operation} {rest : List Operation} {reply : Reply}
      {replies : List Reply} (step : store.Step operation reply next) (run : Run next rest replies last) :
      Run store (operation :: rest) (reply :: replies) last

end PrivateStore

/-! ## Slots -/

theorem set_same {α : Type*} {elements : List α} {number : Nat} {a : α} (held : elements[number]? = some a) :
    elements.set number a = elements := by
  obtain ⟨bound, rfl⟩ := List.getElem?_eq_some_iff.mp held
  exact List.set_getElem_self bound

theorem flatten_set {α : Type} {parts : List (List α)} {number : Nat} {old : List α}
    (held : parts[number]? = some old) (new : List α) :
    (parts.set number new).flatten.Perm (new ++ (parts.set number []).flatten) := by
  have bound := (List.getElem?_eq_some_iff.mp held).1
  rw [List.set_eq_take_append_cons_drop, List.set_eq_take_append_cons_drop, if_pos bound, if_pos bound]
  simp only [List.flatten_append, List.flatten_cons, List.nil_append]
  exact List.perm_append_comm_assoc _ _ _

theorem flatten_perm {α : Type} {parts : List (List α)} {number : Nat} {part : List α}
    (held : parts[number]? = some part) : parts.flatten.Perm (part ++ (parts.set number []).flatten) := by
  have split := flatten_set held part
  rw [set_same held] at split
  exact split

theorem reduceOption_eq_flatten {α : Type} (slots : List (Option α)) :
    slots.reduceOption = (slots.map Option.toList).flatten := by
  induction slots with
  | nil => rfl
  | cons slot rest ih =>
      rw [List.map_cons, List.flatten_cons, ← ih]
      cases slot <;> rfl

theorem reduceOption_set {α : Type} {slots : List (Option α)} {number : Nat} {old : Option α}
    (held : slots[number]? = some old) (slot : Option α) :
    (slots.set number slot).reduceOption.Perm (slot.toList ++ (slots.set number none).reduceOption) := by
  have part : (slots.map Option.toList)[number]? = some old.toList := by
    rw [List.getElem?_map, held, Option.map_some]
  simp only [reduceOption_eq_flatten, List.map_set]
  exact flatten_set part slot.toList

theorem reduceOption_perm {α : Type} {slots : List (Option α)} {number : Nat} {a : α}
    (held : slots[number]? = some (some a)) :
    slots.reduceOption.Perm (a :: (slots.set number none).reduceOption) := by
  have split := reduceOption_set held (some a)
  rw [set_same held] at split
  exact split

theorem join_getElem?_map {α β : Type} (f : α → β) (slots : List (Option α)) (number : Nat) :
    (slots.map (Option.map f))[number]?.join = slots[number]?.join.map f := by
  rw [List.getElem?_map]
  rcases slots[number]? with _ | _ | a <;> rfl

/-! ## Agreement -/

/-- A client and an ideal store agree if both are views of the same entries, all of them in the
client's memory. -/
structure Client.Agrees (client : Client) (slots : List (Option Entry)) (store : PrivateStore)
    (frame : Ledger) : Prop where
  blocks : client.blocks = slots.map (Option.map Entry.toBlock)
  contents : store = slots.map (Option.map Entry.cells)
  holds : client.memory.Holds (slots.reduceOption ++ frame)

namespace Client.Agrees

variable {client : Client} {slots : List (Option Entry)} {store : PrivateStore} {frame : Ledger}

theorem length_eq (agrees : client.Agrees slots store frame) : store.length = client.blocks.length := by
  rw [agrees.blocks, agrees.contents, List.length_map, List.length_map]

theorem held {number : Nat} {block : Block} (agrees : client.Agrees slots store frame)
    (found : client.block? number = some block) :
    ∃ entry : Entry, slots[number]? = some (some entry) ∧ entry.toBlock = block ∧
      store.cells? number = some entry.cells := by
  rw [Client.block?, agrees.blocks, join_getElem?_map] at found
  obtain ⟨entry, slot, same⟩ := Option.map_eq_some_iff.mp found
  refine ⟨entry, Option.join_eq_some_iff.mp slot, same, ?_⟩
  rw [PrivateStore.cells?, agrees.contents, join_getElem?_map, slot, Option.map_some]

theorem not_held {number : Nat} (agrees : client.Agrees slots store frame)
    (missing : client.block? number = none) : store.cells? number = none := by
  rw [Client.block?, agrees.blocks, join_getElem?_map, Option.map_eq_none_iff] at missing
  rw [PrivateStore.cells?, agrees.contents, join_getElem?_map, missing, Option.map_none]

theorem front {number : Nat} {entry : Entry} (agrees : client.Agrees slots store frame)
    (slot : slots[number]? = some (some entry)) :
    client.memory.Holds (entry :: ((slots.set number none).reduceOption ++ frame)) :=
  agrees.holds.perm ((reduceOption_perm slot).append_right frame)

theorem append {memory : Memory} {entry : Entry} (agrees : client.Agrees slots store frame)
    (holds : memory.Holds (entry :: (slots.reduceOption ++ frame))) :
    Agrees ⟨memory, client.blocks ++ [some entry.toBlock]⟩ (slots ++ [some entry])
      (store ++ [some entry.cells]) frame := by
  refine ⟨by simp [agrees.blocks], by simp [agrees.contents], holds.perm ?_⟩
  rw [List.reduceOption_append, List.append_assoc]
  exact List.perm_middle.symm

theorem replace {memory : Memory} {number : Nat} {entry other : Entry}
    (agrees : client.Agrees slots store frame) (slot : slots[number]? = some (some entry))
    (same : other.toBlock = entry.toBlock)
    (holds : memory.Holds (other :: ((slots.set number none).reduceOption ++ frame))) :
    Agrees ⟨memory, client.blocks⟩ (slots.set number (some other)) (store.set number (some other.cells))
      frame := by
  refine ⟨?_, by rw [agrees.contents, List.map_set, Option.map_some], holds.perm ?_⟩
  · rw [agrees.blocks, List.map_set, Option.map_some, same, ← Option.map_some, ← List.map_set, set_same slot]
  · exact ((reduceOption_set slot (some other)).append_right frame).symm

theorem give_up {memory : Memory} (agrees : client.Agrees slots store frame) (number : Nat)
    (holds : memory.Holds ((slots.set number none).reduceOption ++ frame)) :
    Agrees ⟨memory, client.blocks.set number none⟩ (slots.set number none) (store.set number none) frame :=
  ⟨by rw [agrees.blocks, List.map_set, Option.map_none],
    by rw [agrees.contents, List.map_set, Option.map_none], holds⟩

end Client.Agrees

namespace Client

open MemoryM

variable {client : Client} {slots : List (Option Entry)} {store : PrivateStore} {frame : Ledger}

def Refines (client : Client) (store : PrivateStore) (frame : Ledger) (operation : Operation)
    (result : Reply × Client) : Prop :=
  ∃ slots next, store.Step operation result.1 next ∧ result.2.Agrees slots next frame ∧
    client.memory.Evolves result.2.memory

theorem refines_add (operation : Operation) {action : MemoryM Block} (cells : Block → List Cell → Prop)
    (agrees : client.Agrees slots store frame) (allocates : operation.Allocates)
    (allowed : store.Allows operation)
    (triple : Triple [] action fun block ledger => ∃ contents, ledger = [⟨block, contents⟩] ∧ cells block contents)
    (step : ∀ block contents, cells block contents → contents.length = block.layout.size →
      store.Step operation (.made store.length) (store ++ [some contents])) :
    client.Refines store frame operation (client.add client.blocks (action client.memory)) := by
  have outcome := triple _ client.memory agrees.holds
  generalize action client.memory = result at outcome ⊢
  cases outcome with
  | done evolves given holds =>
      obtain ⟨contents, rfl, fits⟩ := given
      refine ⟨_, _, ?_, agrees.append holds, evolves⟩
      simp only [add, finish, ← agrees.length_eq]
      exact step _ _ fits holds.length
  | refused evolves holds =>
      exact ⟨slots, store, .refused allocates allowed, ⟨agrees.blocks, agrees.contents, holds⟩, evolves⟩

theorem refines_write (agrees : client.Agrees slots store frame) (number offset : Nat) (cells : List Cell) :
    client.Refines store frame (.write number offset cells) (client.perform (.write number offset cells)) := by
  simp only [perform]
  cases found : client.block? number with
  | none =>
      refine ⟨slots, store, .misused ?_, agrees, .refl _⟩
      simp [PrivateStore.Allows, agrees.not_held found]
  | some block =>
      obtain ⟨entry, slot, rfl, held⟩ := agrees.held found
      have front := agrees.front slot
      by_cases fits : offset + cells.length ≤ entry.layout.size
      · simp only [if_pos fits, write_apply, finish]
        exact ⟨slots.set number (some (entry.patch offset cells)), _, .written held (front.length ▸ fits),
          agrees.replace slot rfl (front.write fits), .write _ _ cells client.memory⟩
      · simp only [if_neg fits]
        refine ⟨slots, store, .misused ?_, agrees, .refl _⟩
        simp [PrivateStore.Allows, held, front.length, fits]

theorem refines_read (agrees : client.Agrees slots store frame) (number : Nat) :
    client.Refines store frame (.read number) (client.perform (.read number)) := by
  simp only [perform]
  cases found : client.block? number with
  | none =>
      refine ⟨slots, store, .misused ?_, agrees, .refl _⟩
      simp [PrivateStore.Allows, agrees.not_held found]
  | some block =>
      obtain ⟨entry, slot, rfl, held⟩ := agrees.held found
      simp only [(agrees.front slot).read_all, finish]
      exact ⟨slots, store, .read held, agrees, .refl _⟩

theorem refines_reallocate (agrees : client.Agrees slots store frame) (number size : Nat) :
    client.Refines store frame (.reallocate number size) (client.perform (.reallocate number size)) := by
  simp only [perform]
  cases found : client.block? number with
  | none =>
      refine ⟨slots, store, .misused ?_, agrees, .refl _⟩
      simp [PrivateStore.Allows, agrees.not_held found]
  | some block =>
      obtain ⟨entry, slot, rfl, held⟩ := agrees.held found
      have front := agrees.front slot
      have outcome := Block.moved_triple entry size _ client.memory front
      have atomic := Block.moved_atomic (some entry.place) entry.layout size client.memory
      simp only
      generalize Block.moved (some entry.place) entry.layout size client.memory = result
        at outcome atomic ⊢
      cases outcome with
      | done evolves given holds =>
          obtain ⟨cells, rfl, sized, kept⟩ := given
          have length := holds.length
          rw [← front.length] at kept
          refine ⟨_, _, ?_, (agrees.give_up number holds.tail).append holds, evolves⟩
          simp only [add, finish, ← agrees.length_eq]
          exact .reallocated held (length.trans sized) kept
      | refused evolves holds =>
          -- The triple gives up the old block either way; that nothing changed gives it back.
          cases atomic _ rfl
          exact ⟨slots, store, .refused trivial ⟨_, held⟩, agrees, evolves⟩

theorem perform_refines (agrees : client.Agrees slots store frame) (operation : Operation) :
    client.Refines store frame operation (client.perform operation) := by
  cases operation with
  | allocate layout =>
      apply refines_add (.allocate layout) (fun block _ => block.layout = layout) agrees trivial trivial
      · apply (Block.allocated_triple layout).mono
        rintro block ledger ⟨cells, rfl, sized⟩
        exact ⟨cells, rfl, sized⟩
      · intro block contents same length
        exact .allocated (same ▸ length)
  | store a =>
      apply refines_add (.store a) (fun _ contents => contents = Storable.encode a) agrees trivial trivial
      · apply (Block.stored_triple a).mono
        rintro block ledger rfl
        exact ⟨_, rfl, rfl⟩
      · rintro block _ rfl _
        exact .stored a
  | storeAll elements =>
      apply refines_add (.storeAll elements) (fun _ contents => contents = Storable.encodeAll elements)
        agrees trivial trivial
      · apply (Block.storedAll_triple elements).mono
        rintro block ledger rfl
        exact ⟨_, rfl, rfl⟩
      · rintro block _ rfl _
        exact .storedAll elements
  | storeText s =>
      apply refines_add (.storeText s) (fun _ contents => contents = Storable.encodeAll (utf8 s))
        agrees trivial trivial
      · apply (Block.storedAll_triple (utf8 s)).mono
        rintro block ledger rfl
        exact ⟨_, rfl, rfl⟩
      · rintro block _ rfl _
        exact .storedText s
  | write number offset cells => exact refines_write agrees number offset cells
  | read number => exact refines_read agrees number
  | reallocate number size => exact refines_reallocate agrees number size
  | reallocateEmpty layout empty size =>
      apply refines_add (.reallocateEmpty layout empty size) (fun block _ => block.layout.size = size)
        agrees trivial trivial
      · apply (Block.moved_none_triple layout size).mono
        rintro block ledger ⟨cells, rfl, sized⟩
        exact ⟨cells, rfl, sized⟩
      · intro block contents sized length
        exact .reallocatedEmpty (sized ▸ length)

theorem run_refines (agrees : client.Agrees slots store frame) (operations : List Operation) :
    ∃ slots last, PrivateStore.Run store operations (client.run operations).1 last ∧
      (client.run operations).2.Agrees slots last frame := by
  induction operations generalizing client slots store with
  | nil => exact ⟨slots, store, .nil, agrees⟩
  | cons operation rest ih =>
      obtain ⟨slots, next, step, agrees, _⟩ := perform_refines agrees operation
      obtain ⟨slots, last, run, agrees⟩ := ih agrees
      exact ⟨slots, last, .cons step run, agrees⟩

end Client

theorem Client.start_agrees {memory : Memory} (holds : memory.Holds []) :
    (Client.start memory).Agrees [] [] [] :=
  ⟨rfl, rfl, holds⟩

/-- An arena refines the store of private blocks. -/
theorem replies_of_private_store {system : System} {options : Options} {request : Nat} {memory : Memory}
    (sound : system.Sound) (created : Memory.create system options request = .ok memory)
    (operations : List Operation) :
    ∃ last, PrivateStore.Run [] operations ((Client.start memory).run operations).1 last := by
  have agrees := Client.start_agrees (Memory.create_holds sound created)
  obtain ⟨_, last, run, _⟩ := Client.run_refines agrees operations
  exact ⟨last, run⟩

def Reply.bytes? : Reply → Option (List UInt8)
  | .cells contents => Cell.bytes? contents
  | _ => none

/-- A block moves to a second region, and its old bytes are handed out again. -/
theorem replies_of_private_store_reuse :
    let operations := [.storeAll (List.replicate 58 (0 : UInt8)), .storeAll [(1 : UInt8), 2, 3, 4], .reallocate 1 6,
      .storeText "abcd", .write 2 3 (Cell.ofBytes [7, 8, 9]), .read 2, .read 3, .read 1]
    let replies := ((Client.start .small).run operations).1
    System.paged.Sound ∧ Memory.create .paged ⟨64⟩ 0 = .ok .small ∧
      replies.map Reply.bytes? =
        [none, none, none, none, none, some [1, 2, 3, 7, 8, 9], some (utf8 "abcd"), none] ∧
      ((Client.start .small).run operations).2.live.map Block.place = [⟨0, 0⟩, ⟨1, 0⟩, ⟨0, 58⟩] ∧
      ∃ last, PrivateStore.Run [] operations replies last := by
  intro operations replies
  exact ⟨System.paged_sound, Memory.small_created, by decide +kernel, by decide +kernel,
    replies_of_private_store System.paged_sound Memory.small_created operations⟩

end ArenaLang
