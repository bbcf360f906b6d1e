import ArenaLang.Proofs.IndependentLists

namespace ArenaLang

open MemoryM

/-- Carving a block, moving a live block of the client's, making a vector with some capacity, and
acting on a vector or scope that the host keeps. A block of no bytes may be moved from anywhere. -/
inductive Host.Attempt (host : Host) : {α : Type} → MemoryM α → Prop
  | allocate (layout : Layout) : Attempt host (allocate layout)
  | reallocate {number : Nat} {block : Block} (live : host.client.block? number = some block) (size : Nat) :
      Attempt host (reallocate (some block.place) block.layout size)
  | reallocateEmpty (place? : Option Place) {layout : Layout} (empty : layout.size = 0) (size : Nat) :
      Attempt host (MemoryM.reallocate place? layout size)
  | sized {α : Type} [Storable α] (capacity : Nat) : Attempt host (Buffer.withCapacity capacity : MemoryM (Buffer α))
  | acted {α : Type} [Storable α] {number : Nat} {buffer : Buffer α} {appended : List α}
      (held : host.holdings[number]? = some (.vector buffer appended)) (action : Buffer.Action α) :
      Attempt host (action.run buffer)
  | bound {number : Nat} {scope : Scope} {bindings : List Binding}
      (held : host.holdings[number]? = some (.scope scope bindings)) (name : String) (value : Value) :
      Attempt host (scope.bind name value)

theorem MemoryM.reallocate_of_empty {layout : Layout} (empty : layout.size = 0) (place? : Option Place) (size : Nat) :
    reallocate place? layout size = reallocate none layout size := by
  unfold reallocate
  cases place? with
  | none => rfl
  | some place => simp only [empty, Nat.zero_min, Nat.lt_irrefl, if_false]

theorem Host.Attempt.atomic {host : Host} {α : Type} {step : MemoryM α} (attempt : host.Attempt step) :
    Atomic step := by
  cases attempt with
  | allocate layout => exact allocate_atomic layout
  | reallocate live size => exact reallocate_atomic _ _ size
  | reallocateEmpty place? empty size => exact reallocate_atomic place? _ size
  | sized capacity => exact Buffer.withCapacity_atomic capacity
  | acted held action => exact Buffer.action_atomic _ action
  | bound held name value => exact Scope.bind_atomic _ name value

theorem Host.Attempt.not_faulty {host : Host} {α : Type} {step : MemoryM α} (attempt : host.Attempt step)
    (sound : host.Sound) (fault : Fault) : (step host.client.memory).1 ≠ .error (.faulty fault) := by
  obtain ⟨slots, store, ledgers, keeps⟩ := sound
  have holds := keeps.agrees.holds
  cases attempt with
  | allocate layout => exact (allocate_triple layout).not_faulty holds fault
  | reallocate live size =>
      obtain ⟨entry, slot, rfl, _⟩ := keeps.agrees.held live
      exact (reallocate_triple entry size).not_faulty (keeps.agrees.front slot) fault
  | reallocateEmpty place? empty size =>
      rw [reallocate_of_empty empty]
      exact (reallocate_none_triple _ size).not_faulty holds fault
  | sized capacity => exact (Buffer.withCapacity_triple capacity).not_faulty holds fault
  | acted held action =>
      obtain ⟨ledger, found, stands, _⟩ := forall₂_getElem? keeps.standing held
      exact (Buffer.action_triple stands action).not_faulty (holds.right.perm (flatten_perm found)) fault
  | bound held name value =>
      obtain ⟨ledger, found, stands, _⟩ := forall₂_getElem? keeps.standing held
      exact (Scope.bind_triple stands name value).not_faulty (holds.right.perm (flatten_perm found)) fault

/-! ## The client -/

namespace MemoryM

variable {α : Type} [Storable α]

theorem store_atomic (a : α) : Atomic (store a) :=
  (allocate_atomic _).then_steady fun _ => (write_steady _ _).bind fun _ => .pure _

theorem storeAll_atomic (elements : List α) : Atomic (storeAll elements) := by
  unfold storeAll
  cases (Storable.layoutOf α).array? elements.length with
  | none => exact (Still.refuse _).atomic
  | some layout => exact (allocate_atomic layout).then_steady fun _ => (write_steady _ _).bind fun _ => .pure _

end MemoryM

theorem Block.storedAll_atomic {α : Type} [Storable α] (elements : List α) : Atomic (storedAll elements) := by
  apply (storeAll_atomic elements).then_steady
  intro slice
  split
  · exact .pure _
  · exact .faulty _

namespace Client

variable {client : Client} {refusal : Refusal}

theorem finish_refused {α : Type} {action : MemoryM α} (atomic : Atomic action) {answer : α → Reply}
    {blocks : α → List (Option Block)} (never : ∀ a, answer a ≠ .refused refusal)
    (refused : (client.finish answer blocks (action client.memory)).1 = .refused refusal) :
    (client.finish answer blocks (action client.memory)).2 = client := by
  have same := atomic client.memory
  rcases done : action client.memory with ⟨(reason | fault) | a, after⟩
  · rw [done] at same
    obtain rfl : after = client.memory := same reason rfl
    rfl
  · rw [done] at refused
    cases refused
  · rw [done] at refused
    exact absurd refused (never a)

theorem add_refused {action : MemoryM Block} (atomic : Atomic action) {kept : List (Option Block)}
    (refused : (client.add kept (action client.memory)).1 = .refused refusal) :
    (client.add kept (action client.memory)).2 = client :=
  finish_refused atomic (fun _ made => Reply.noConfusion made) refused

theorem perform_refused {operation : Operation} (refused : (client.perform operation).1 = .refused refusal) :
    (client.perform operation).2 = client := by
  cases operation with
  | allocate layout => exact add_refused ((allocate_atomic layout).then_steady fun _ => .pure _) refused
  | store a => exact add_refused ((store_atomic a).then_steady fun _ => .pure _) refused
  | storeAll elements => exact add_refused (Block.storedAll_atomic elements) refused
  | storeText s => exact add_refused (Block.storedAll_atomic (utf8 s)) refused
  | write number offset cells =>
      rw [perform] at refused ⊢
      split at refused
      · rfl
      · split at refused
        · rename_i fits
          rw [if_pos fits]
          exact finish_refused (write_steady _ _).atomic (fun _ made => Reply.noConfusion made) refused
        · rename_i outside
          rw [if_neg outside]
  | read number =>
      rw [perform] at refused ⊢
      split at refused
      · rfl
      · exact finish_refused (read_steady _ _).atomic (fun _ made => Reply.noConfusion made) refused
  | reallocate number size =>
      rw [perform] at refused ⊢
      split at refused
      · rfl
      · exact add_refused (Block.moved_atomic _ _ size) refused
  | reallocateEmpty layout empty size => exact add_refused (Block.moved_atomic none layout size) refused

end Client

theorem Host.settle_same {host : Host} {α : Type} {step : MemoryM α} {failure : Failure}
    (failed : step host.client.memory = (.error failure, host.client.memory)) (kept : α → List Holding) :
    host.settle step kept = host := by
  rw [settle, failed]

/-- Whatever happened in an arena, an attempt that fails was refused memory and leaves no trace: the
memory is the one before it, log included, and the host goes on as if it had not been made. So it is
with what the client does. -/
theorem failed_attempts_leave_no_trace {system : System} {options : Options} {request : Nat} {memory : Memory}
    {host : Host} (sound : system.Sound) (created : Memory.create system options request = .ok memory)
    (reaches : (Host.start memory).Reaches host) :
    (∀ {α : Type} {step : MemoryM α} {failure : Failure} {after : Memory}, host.Attempt step →
      step host.client.memory = (.error failure, after) →
        (∃ refusal, failure = .refused refusal) ∧ after = host.client.memory ∧
          ∀ kept, host.settle step kept = host) ∧
      ∀ operation refusal, (host.client.perform operation).1 = .refused refusal →
        { host with client := (host.client.perform operation).2 } = host := by
  have hosts := reaches.sound (Host.start_sound (Memory.create_holds sound created))
  constructor
  · intro α step failure after attempt failed
    cases failure with
    | faulty fault => exact absurd (congrArg Prod.fst failed) (attempt.not_faulty hosts fault)
    | refused refusal =>
        have same := attempt.atomic host.client.memory refusal (by rw [failed])
        rw [failed] at same
        obtain rfl : after = host.client.memory := same
        exact ⟨⟨refusal, rfl⟩, rfl, Host.settle_same failed⟩
  · intro operation refusal refused
    rw [Client.perform_refused refused]

/-- A client's block is moved to more memory than the system has, beside a vector of one word. -/
theorem failed_attempts_leave_no_trace_full :
    System.paged.Sound ∧ Memory.create .paged ⟨64⟩ 0 = .ok .small ∧
      ∃ (host : Host) (block : Block), (Host.start .small).Reaches host ∧ host.client.block? 0 = some block ∧
        let step := reallocate (some block.place) block.layout System.refusedFrom
        host.Attempt step ∧
          step host.client.memory = (.error (.refused (.outOfMemory System.refusedFrom)), host.client.memory) ∧
          ∀ kept, host.settle step kept = host := by
  have created := Relation.ReflTransGen.single (@Host.Step.created (Host.start .small) UInt64 _)
  have pushed := created.tail (@Host.Step.acted _ UInt64 _ 0 .empty [] rfl (.push 7))
  obtain ⟨host, reaches, works⟩ : ∃ host, (Host.start .small).Reaches host ∧
      ((host.client.block? 0).map fun block =>
        (reallocate (some block.place) block.layout System.refusedFrom host.client.memory).1) =
          some (.error (.refused (.outOfMemory System.refusedFrom))) :=
    ⟨_, pushed.tail (Host.Step.foreign (.storeText "abc")), rfl⟩
  obtain ⟨block, live, refused⟩ := Option.map_eq_some_iff.mp works
  refine ⟨System.paged_sound, Memory.small_created, host, block, reaches, live, ?_⟩
  intro step
  have attempt : host.Attempt step := .reallocate live System.refusedFrom
  have failed : step host.client.memory = (.error _, (step host.client.memory).2) := Prod.ext refused rfl
  obtain ⟨_, same, settled⟩ :=
    (failed_attempts_leave_no_trace System.paged_sound Memory.small_created reaches).1 attempt failed
  rw [same] at failed
  exact ⟨attempt, failed, settled⟩

end ArenaLang
