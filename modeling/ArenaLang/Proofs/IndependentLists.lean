import ArenaLang.Arena.Element
import ArenaLang.Proofs.Buffers
import ArenaLang.Proofs.PrivateBlocks
import ArenaLang.Scope

namespace ArenaLang

inductive Buffer.Action (α : Type) where
  | push (a : α)
  | extend (elements : List α)
  | reserve (additional : Nat)

namespace Buffer

variable {α : Type} [Storable α]

def Action.run (buffer : Buffer α) : Action α → MemoryM (Buffer α)
  | push a => buffer.push a
  | extend elements => buffer.extend elements
  | reserve additional => buffer.reserve additional

def Action.appends : Action α → List α
  | push a => [a]
  | extend elements => elements
  | reserve _ => []

def equals (same : α → α → Bool) (others : List α) (buffer : Buffer α) : MemoryM Bool :=
  return (← buffer.toList).isEqv others same

structure Reads (memory : Memory) (buffer : Buffer α) (elements : List α) : Prop where
  length : buffer.length = elements.length
  room : buffer.length ≤ buffer.capacity
  whole : buffer.toList memory = (.ok elements, memory)
  element : ∀ index, buffer.get? index memory = (.ok elements[index]?, memory)
  equality : ∀ same others, buffer.equals same others memory = (.ok (elements.isEqv others same), memory)
  safe : ∀ (action : Action α) (fault : Fault), (action.run buffer memory).1 ≠ .error (.faulty fault)

end Buffer

structure Scope.Reads (memory : Memory) (scope : Scope) (bound : List Binding) : Prop where
  bindings : scope.bindings.Reads memory bound
  listed : scope.toList memory = (.ok bound, memory)
  lookup : ∀ name, scope.lookup? name memory =
    (.ok ((bound.find? (·.name == name)).map Binding.value), memory)

/-! ## The host -/

inductive Holding : Type 1 where
  | vector {α : Type} [Storable α] (buffer : Buffer α) (appended : List α)
  | scope (scope : Scope) (bound : List Binding)
  | slice {α : Type} [Storable α] (slice : Slice) (contents : List α)

def Holding.Reads (memory : Memory) : Holding → Prop
  | @Holding.vector _ _ buffer appended => buffer.Reads memory appended
  | .scope activation bound => activation.Reads memory bound
  | @Holding.slice α _ row contents => MemoryM.loadAll α row memory = (.ok contents, memory)

structure Host : Type 1 where
  client : Client
  holdings : List Holding

namespace Host

def start (memory : Memory) : Host := ⟨Client.start memory, []⟩

/-- A step that fails leaves what the host holds as it was. The place and the capacity of a vector are
assigned only once `Buffer.grow` has its memory, and behind that nothing is refused: filling a buffer
with room for the elements only writes. So no part of a failed step is left in the vector or scope. -/
def settle {α : Type} (host : Host) (step : MemoryM α) (kept : α → List Holding) : Host :=
  match step host.client.memory with
  | (.ok a, memory) => ⟨{ host.client with memory }, kept a⟩
  | (.error _, memory) => ⟨{ host.client with memory }, host.holdings⟩

inductive Step (host : Host) : Host → Prop
  | foreign (operation : Operation) : Step host { host with client := (host.client.perform operation).2 }
  | created {α : Type} [Storable α] :
      Step host { host with holdings := host.holdings ++ [.vector (Buffer.empty : Buffer α) []] }
  | sized {α : Type} [Storable α] (capacity : Nat) :
      Step host (host.settle (Buffer.withCapacity capacity)
        fun buffer : Buffer α => host.holdings ++ [.vector buffer []])
  | acted {α : Type} [Storable α] {number : Nat} {buffer : Buffer α} {appended : List α}
      (held : host.holdings[number]? = some (.vector buffer appended)) (action : Buffer.Action α) :
      Step host (host.settle (action.run buffer)
        fun next => host.holdings.set number (.vector next (appended ++ action.appends)))
  | entered : Step host { host with holdings := host.holdings ++ [.scope .empty []] }
  | bound {number : Nat} {scope : Scope} {bindings : List Binding}
      (held : host.holdings[number]? = some (.scope scope bindings)) (name : String) (value : Value) :
      Step host (host.settle (scope.bind name value)
        fun next => host.holdings.set number (.scope next (bindings ++ [⟨name, value⟩])))
  | frozen {α : Type} [Storable α] {number : Nat} {buffer : Buffer α} {appended : List α}
      (held : host.holdings[number]? = some (.vector buffer appended)) :
      Step host { host with holdings := host.holdings.set number (@Holding.slice α _ buffer.toSlice appended) }

abbrev Reaches : Host → Host → Prop := Relation.ReflTransGen Step

end Host

/-! ## What each holding stands for -/

def Holding.Stands : Holding → Ledger → Prop
  | @Holding.vector _ _ buffer appended, ledger => buffer.Stands appended ledger
  | .scope activation bound, ledger => activation.bindings.Stands bound ledger
  | @Holding.slice α _ row contents, ledger =>
      ∃ buffer : Buffer α, row = buffer.toSlice ∧ buffer.Stands contents ledger

open MemoryM

variable {memory : Memory} {ledger frame : Ledger}

theorem Buffer.action_triple {α : Type} [Storable α] {buffer : Buffer α} {elements : List α}
    (stands : buffer.Stands elements ledger) (action : Buffer.Action α) :
    Triple ledger (action.run buffer) fun next given => next.Stands (elements ++ action.appends) given := by
  cases action with
  | push a => exact push_triple stands a
  | extend more => exact extend_triple stands more
  | reserve additional =>
      apply (reserve_triple stands additional).mono
      rintro next given ⟨nextStands, _⟩
      exact (List.append_nil elements).symm ▸ nextStands

theorem Buffer.action_atomic {α : Type} [Storable α] (buffer : Buffer α) (action : Buffer.Action α) :
    Atomic (action.run buffer) := by
  cases action with
  | push a => exact push_atomic a buffer
  | extend elements => exact extend_atomic elements buffer
  | reserve additional => exact reserve_atomic additional buffer

theorem MemoryM.Triple.not_faulty {α : Type} {step : MemoryM α} {gives : α → Ledger → Prop}
    (triple : Triple ledger step gives) (holds : memory.Holds (ledger ++ frame)) (fault : Fault) :
    (step memory).1 ≠ .error (.faulty fault) := by
  intro faulty
  obtain ⟨refusal, refused⟩ | ⟨a, after, done⟩ := triple.ends holds
  · rw [refused] at faulty
    cases faulty
  · rw [done] at faulty
    cases faulty

theorem Buffer.Stands.reads {α : Type} [Storable α] {buffer : Buffer α} {elements : List α}
    (stands : buffer.Stands elements ledger) (holds : memory.Holds (ledger ++ frame)) :
    buffer.Reads memory elements := by
  have length := stands.length_eq
  have whole : buffer.toList memory = (.ok elements, memory) := stands.loads memory holds.left
  refine ⟨length, length ▸ stands.room, whole, ?_, ?_, ?_⟩
  · intro index
    rw [Buffer.get?, bind_ok whole]
    rfl
  · intro same others
    rw [Buffer.equals, bind_ok whole]
    rfl
  · intro action fault
    exact (Buffer.action_triple stands action).not_faulty holds fault

theorem Scope.bind_triple {scope : Scope} {bound : List Binding}
    (stands : scope.bindings.Stands bound ledger) (name : String) (value : Value) :
    Triple ledger (scope.bind name value) fun next given =>
      next.bindings.Stands (bound ++ [⟨name, value⟩]) given := by
  apply Triple.bind (Buffer.push_triple stands ⟨name, value⟩)
  intro bindings given nextStands
  exact .pure nextStands

theorem Scope.bind_atomic (scope : Scope) (name : String) (value : Value) : Atomic (scope.bind name value) :=
  (Buffer.push_atomic _ _).then_steady fun _ => .pure _

theorem Scope.reads {scope : Scope} {bound : List Binding} (stands : scope.bindings.Stands bound ledger)
    (holds : memory.Holds (ledger ++ frame)) : scope.Reads memory bound := by
  have bindings := stands.reads holds
  refine ⟨bindings, bindings.whole, ?_⟩
  intro name
  rw [Scope.lookup?, Scope.toList, bind_ok bindings.whole]
  rfl

theorem Holding.Stands.reads {holding : Holding} (stands : holding.Stands ledger)
    (holds : memory.Holds (ledger ++ frame)) : holding.Reads memory := by
  cases holding with
  | vector buffer appended => exact Buffer.Stands.reads stands holds
  | scope scope bound => exact Scope.reads stands holds
  | slice slice contents =>
      obtain ⟨buffer, rfl, stands⟩ := stands
      exact stands.loads memory holds.left

/-! ## The invariant -/

theorem forall₂_getElem? {α : Type 1} {β : Type} {related : α → β → Prop} {left : List α} {right : List β}
    (all : List.Forall₂ related left right) {number : Nat} {a : α} (held : left[number]? = some a) :
    ∃ b, right[number]? = some b ∧ related a b ∧ ∀ other another, related other another →
      List.Forall₂ related (left.set number other) (right.set number another) := by
  induction all generalizing number with
  | nil => cases held
  | @cons x y left right first rest ih =>
      cases number with
      | zero =>
          cases held
          exact ⟨y, rfl, first, fun _ _ new => .cons new rest⟩
      | succ number =>
          obtain ⟨b, found, same, replaced⟩ := ih held
          exact ⟨b, found, same, fun other another new => .cons first (replaced other another new)⟩

namespace Host

structure Keeps (host : Host) (slots : List (Option Entry)) (store : PrivateStore)
    (ledgers : List Ledger) : Prop where
  standing : List.Forall₂ Holding.Stands host.holdings ledgers
  agrees : host.client.Agrees slots store ledgers.flatten

def Sound (host : Host) : Prop := ∃ slots store ledgers, host.Keeps slots store ledgers

structure KeepsBeside (host : Host) (frame : Ledger) (slots : List (Option Entry)) (store : PrivateStore)
    (ledgers : List Ledger) : Prop where
  standing : List.Forall₂ Holding.Stands host.holdings ledgers
  agrees : host.client.Agrees slots store (ledgers.flatten ++ frame)

def SoundBeside (frame : Ledger) (host : Host) : Prop :=
  ∃ slots store ledgers, host.KeepsBeside frame slots store ledgers

variable {host next : Host} {slots : List (Option Entry)} {store : PrivateStore} {ledgers : List Ledger}

theorem sound_iff : host.Sound ↔ host.SoundBeside [] := by
  constructor
  · rintro ⟨slots, store, ledgers, standing, agrees⟩
    exact ⟨slots, store, ledgers, standing, (List.append_nil _).symm ▸ agrees⟩
  · rintro ⟨slots, store, ledgers, standing, agrees⟩
    exact ⟨slots, store, ledgers, standing, List.append_nil ledgers.flatten ▸ agrees⟩

theorem KeepsBeside.settle {α : Type} {needs rest : Ledger} {step : MemoryM α} {gives : α → Ledger → Prop}
    {kept : α → List Holding} (keeps : host.KeepsBeside frame slots store ledgers)
    (split : (ledgers.flatten ++ frame).Perm (needs ++ rest)) (triple : Triple needs step gives)
    (atomic : Atomic step)
    (after : ∀ a given, gives a given →
      ∃ others, List.Forall₂ Holding.Stands (kept a) others ∧ (others.flatten ++ frame).Perm (given ++ rest)) :
    (host.settle step kept).SoundBeside frame := by
  have front : (slots.reduceOption ++ (ledgers.flatten ++ frame)).Perm (needs ++ (slots.reduceOption ++ rest)) :=
    (split.append_left _).trans (List.perm_append_comm_assoc _ _ _)
  have outcome := triple _ host.client.memory (keeps.agrees.holds.perm front)
  have refusals := atomic host.client.memory
  unfold Host.settle
  generalize step host.client.memory = result at outcome refusals ⊢
  cases outcome with
  | done _ given holds =>
      obtain ⟨others, standing, same⟩ := after _ _ given
      have back := (List.perm_append_comm_assoc _ _ _).trans (same.symm.append_left slots.reduceOption)
      exact ⟨slots, store, others, standing, keeps.agrees.blocks, keeps.agrees.contents, holds.perm back⟩
  | refused _ _ =>
      cases refusals _ rfl
      exact ⟨slots, store, ledgers, keeps.standing, keeps.agrees⟩

theorem KeepsBeside.add {holding : Holding} (keeps : host.KeepsBeside frame slots store ledgers)
    (stands : holding.Stands []) : SoundBeside frame { host with holdings := host.holdings ++ [holding] } := by
  refine ⟨slots, store, ledgers ++ [[]], ?_, ?_⟩
  · exact List.rel_append keeps.standing (.cons stands .nil)
  · have same : (ledgers ++ [[]]).flatten = ledgers.flatten := by simp
    exact same ▸ keeps.agrees

theorem KeepsBeside.change {α : Type} {number : Nat} {holding : Holding} {step : MemoryM α} {changed : α → Holding}
    (keeps : host.KeepsBeside frame slots store ledgers) (held : host.holdings[number]? = some holding)
    (triple : ∀ ledger, holding.Stands ledger → Triple ledger step fun a given => (changed a).Stands given)
    (atomic : Atomic step) :
    (host.settle step fun a => host.holdings.set number (changed a)).SoundBeside frame := by
  obtain ⟨ledger, found, stands, replaced⟩ := forall₂_getElem? keeps.standing held
  have split := (flatten_perm found).append_right frame
  rw [List.append_assoc] at split
  apply keeps.settle split (triple ledger stands) atomic
  intro a given standing
  refine ⟨ledgers.set number given, replaced _ _ standing, ?_⟩
  rw [← List.append_assoc]
  exact (flatten_set found given).append_right frame

/-- What a host does with its own leaves what else is in the memory as it is. -/
theorem Step.soundBeside (sound : host.SoundBeside frame) (step : Step host next) : next.SoundBeside frame := by
  obtain ⟨slots, store, ledgers, keeps⟩ := sound
  cases step with
  | foreign operation =>
      obtain ⟨slots, store, _, agrees, _⟩ := Client.perform_refines keeps.agrees operation
      exact ⟨slots, store, ledgers, keeps.standing, agrees⟩
  | created => exact keeps.add Buffer.empty_stands
  | sized capacity =>
      have split : (ledgers.flatten ++ frame).Perm ([] ++ (ledgers.flatten ++ frame)) := .refl _
      apply keeps.settle split (Buffer.withCapacity_triple capacity) (Buffer.withCapacity_atomic capacity)
      intro buffer given stands
      refine ⟨ledgers ++ [given], List.rel_append keeps.standing (.cons stands .nil), ?_⟩
      rw [List.flatten_append, List.flatten_singleton, List.append_assoc]
      exact List.perm_append_comm_assoc _ _ _
  | acted held action =>
      exact keeps.change held (fun _ stands => Buffer.action_triple stands action)
        (Buffer.action_atomic _ action)
  | entered => exact keeps.add Buffer.empty_stands
  | bound held name value =>
      exact keeps.change held (fun _ stands => Scope.bind_triple stands name value)
        (Scope.bind_atomic _ name value)
  | @frozen α _ number buffer appended held =>
      obtain ⟨ledger, found, stands, replaced⟩ := forall₂_getElem? keeps.standing held
      -- The slice takes over the entries of the buffer, which nobody can move any more.
      have standing := replaced (@Holding.slice α _ buffer.toSlice appended) ledger ⟨buffer, rfl, stands⟩
      rw [set_same found] at standing
      exact ⟨slots, store, ledgers, standing, keeps.agrees⟩

theorem Step.sound (sound : host.Sound) (step : Step host next) : next.Sound :=
  sound_iff.mpr (step.soundBeside (sound_iff.mp sound))

theorem start_sound (holds : memory.Holds []) : (start memory).Sound :=
  ⟨[], [], [], .nil, Client.start_agrees holds⟩

theorem Reaches.sound (reaches : Reaches host next) (sound : host.Sound) : next.Sound := by
  induction reaches with
  | refl => exact sound
  | tail _ step ih => exact step.sound ih

theorem Sound.reads (sound : host.Sound) : ∀ holding ∈ host.holdings, holding.Reads host.client.memory := by
  intro holding member
  obtain ⟨slots, store, ledgers, keeps⟩ := sound
  obtain ⟨number, held⟩ := List.mem_iff_getElem?.mp member
  obtain ⟨ledger, found, stands, _⟩ := forall₂_getElem? keeps.standing held
  exact stands.reads (keeps.agrees.holds.right.perm (flatten_perm found))

end Host

/-- Whatever happens in an arena, every vector, scope and slice in it is the list it was made. -/
theorem holdings_are_independent_lists {system : System} {options : Options} {request : Nat}
    {host : Host} (sound : system.Sound) (created : Memory.create system options request = .ok memory)
    (reaches : (Host.start memory).Reaches host) :
    ∀ holding ∈ host.holdings, holding.Reads host.client.memory := by
  have initial := Host.start_sound (Memory.create_holds sound created)
  exact (reaches.sound initial).reads

/-- A vector is frozen behind a block and a scope that came in between. -/
theorem holdings_are_independent_lists_frozen :
    System.paged.Sound ∧ Memory.create .paged ⟨64⟩ 0 = .ok .small ∧
      ∃ host, (Host.start .small).Reaches host ∧ host.holdings.length = 2 ∧
        ∀ holding ∈ host.holdings, holding.Reads host.client.memory := by
  have created := Relation.ReflTransGen.single (@Host.Step.created (Host.start .small) UInt64 _)
  have pushed := created.tail (@Host.Step.acted _ UInt64 _ 0 .empty [] rfl (.push 7))
  have foreign := pushed.tail (Host.Step.foreign (.storeText "abc"))
  have entered := foreign.tail Host.Step.entered
  have bound := entered.tail (@Host.Step.bound _ 1 .empty [] rfl "a" (.text "b"))
  have frozen := bound.tail (@Host.Step.frozen _ UInt64 _ 0 ⟨some ⟨0, 0⟩, 1, 4⟩ [7] rfl)
  exact ⟨System.paged_sound, Memory.small_created, _, frozen, rfl,
    holdings_are_independent_lists System.paged_sound Memory.small_created frozen⟩

end ArenaLang
