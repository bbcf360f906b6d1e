import ArenaLang.Proofs.Shortage

namespace ArenaLang

open MemoryM

namespace Buffer

/-! ## Capacities -/

theorem capacityFor_of_error {required capacity : Nat} {refusal : Refusal}
    (failed : nextCapacity capacity = .error refusal) : capacityFor required capacity = .error refusal := by
  unfold capacityFor
  split
  · rename_i other
    exact congrArg _ (Except.error.inj (other.symm.trans failed))
  · rename_i next made
    cases made.symm.trans failed

theorem capacityFor_of_ok {required capacity next : Nat} (made : nextCapacity capacity = .ok next) :
    capacityFor required capacity = doubleUntil required next (nextCapacity_pos made) := by
  unfold capacityFor
  split
  · rename_i failed
    cases failed.symm.trans made
  · rename_i other same
    cases same.symm.trans made
    rfl

def capacityWith (required capacity : Nat) : Except Refusal Nat :=
  if required ≤ capacity then .ok capacity else capacityFor required capacity

theorem capacityWith_of_le {required capacity : Nat} (enough : required ≤ capacity) :
    capacityWith required capacity = .ok capacity := if_pos enough

theorem capacityWith_of_lt {required capacity : Nat} (below : capacity < required) :
    capacityWith required capacity = capacityFor required capacity := if_neg (Nat.not_le.mpr below)

theorem leastCapacity_le_of_nextCapacity {capacity next : Nat} (made : nextCapacity capacity = .ok next) :
    leastCapacity ≤ next := by
  unfold nextCapacity at made
  split at made
  · cases made
  · cases made
    exact Nat.le_max_right _ _

theorem doubleUntil_eq_capacityWith {required capacity : Nat} {positive : 0 < capacity}
    (least : leastCapacity ≤ capacity) :
    doubleUntil required capacity positive = capacityWith required capacity := by
  rw [doubleUntil]
  by_cases below : capacity < required
  · -- From the least capacity on, the next capacity is twice the last.
    rw [if_pos below, capacityWith_of_lt below]
    by_cases word : capacity * 2 < Word.limit
    · have enough : leastCapacity ≤ capacity * 2 := by omega
      have next : nextCapacity capacity = .ok (capacity * 2) := by
        simp only [nextCapacity, Word.mul?, if_pos word, Nat.max_eq_left enough]
      rw [if_pos word, capacityFor_of_ok next]
    · have next : nextCapacity capacity = .error (overflow capacity) := by
        rw [nextCapacity, Word.mul?, if_neg word]
      rw [if_neg word, capacityFor_of_error next]
  · rw [if_neg below, capacityWith_of_le (Nat.not_lt.mp below)]

/-- Growing as far as required is growing step by step. -/
theorem capacityWith_step {required capacity : Nat} (below : capacity < required) :
    capacityWith required capacity = (nextCapacity capacity).bind (capacityWith required) := by
  rw [capacityWith_of_lt below]
  cases made : nextCapacity capacity with
  | error refusal => rw [capacityFor_of_error made, Except.bind]
  | ok next =>
      rw [capacityFor_of_ok made, Except.bind]
      exact doubleUntil_eq_capacityWith (leastCapacity_le_of_nextCapacity made)

theorem le_capacityWith {required capacity last : Nat} (made : capacityWith required capacity = .ok last) :
    required ≤ last := by
  unfold capacityWith at made
  split at made
  · cases made
    assumption
  · exact le_of_capacityFor made

theorem capacity_le_of_capacityWith {required capacity last : Nat}
    (made : capacityWith required capacity = .ok last) : capacity ≤ last := by
  have enough := le_capacityWith made
  unfold capacityWith at made
  split at made
  · cases made
    exact Nat.le_refl _
  · omega

theorem capacityWith_lt {required capacity last : Nat} (word : capacity < Word.limit)
    (made : capacityWith required capacity = .ok last) : last < Word.limit := by
  unfold capacityWith at made
  split at made
  · cases made
    exact word
  · exact capacityFor_lt made

/-! ## What the answers are -/

variable {α : Type} [Storable α]

theorem fill_yields (elements : List α) (buffer : Buffer α) :
    Yields (fun filled => filled = { buffer with length := buffer.length + elements.length })
      (buffer.fill elements) := by
  refine Yields.behind fun _ => ?_
  cases buffer.place with
  | none => exact .pure rfl
  | some place => exact Yields.behind fun _ => .pure rfl

theorem grow_yields (capacity : Nat) (buffer : Buffer α) :
    Yields (fun grown => grown.length = buffer.length ∧ grown.capacity = capacity) (buffer.grow capacity) := by
  refine Yields.behind fun _ => ?_
  refine Yields.behind fun old => ?_
  refine Yields.behind fun new => ?_
  refine Yields.behind fun place => ?_
  exact Yields.behind fun _ => .pure ⟨rfl, rfl⟩

theorem reserve_yields (additional : Nat) (buffer : Buffer α) :
    Yields (fun roomy => roomy.length = buffer.length ∧
      capacityWith (buffer.length + additional) buffer.capacity = .ok roomy.capacity) (buffer.reserve additional) := by
  unfold reserve Word.add?
  split
  · exact .throw _
  · rename_i required sum
    obtain rfl : buffer.length + additional = required := by
      split at sum
      · exact Option.some.inj sum
      · cases sum
    split
    · rename_i enough
      exact .pure ⟨rfl, capacityWith_of_le enough⟩
    · rename_i below
      refine (ofRefusal_yields _).bind fun capacity made => ?_
      intro memory grown answered
      obtain ⟨length, exact⟩ := grow_yields capacity buffer memory grown answered
      rw [capacityWith_of_lt (Nat.not_le.mp below), exact]
      exact ⟨length, made⟩

theorem extend_yields (more : List α) (buffer : Buffer α) :
    Yields (fun next => next.length = buffer.length + more.length ∧
      capacityWith (buffer.length + more.length) buffer.capacity = .ok next.capacity) (buffer.extend more) := by
  refine (reserve_yields more.length buffer).bind fun roomy made => ?_
  intro memory next answered
  rw [fill_yields more roomy memory next answered, ← made.1]
  exact ⟨rfl, made.1 ▸ made.2⟩

theorem push_yields (a : α) (buffer : Buffer α) :
    Yields (fun next => next.length = buffer.length + 1 ∧
      (buffer.length = buffer.capacity → nextCapacity buffer.capacity = .ok next.capacity) ∧
      (buffer.length ≠ buffer.capacity → next.capacity = buffer.capacity)) (buffer.push a) := by
  unfold push
  split
  · rename_i full
    have grown : Yields (fun next : Buffer α => next.length = buffer.length ∧
        nextCapacity buffer.capacity = .ok next.capacity) buffer.growByOne := by
      refine Yields.behind fun _ => (ofRefusal_yields _).bind fun capacity made => ?_
      intro memory next answered
      obtain ⟨length, exact⟩ := grow_yields capacity buffer memory next answered
      exact ⟨length, exact ▸ made⟩
    refine grown.bind fun roomy ⟨length, made⟩ => ?_
    intro memory next answered
    rw [fill_yields [a] roomy memory next answered]
    exact ⟨congrArg (· + 1) length, fun _ => made, fun notFull => absurd full notFull⟩
  · rename_i notFull
    intro memory next answered
    rw [fill_yields [a] buffer memory next answered]
    exact ⟨rfl, fun full => absurd full notFull, fun _ => rfl⟩

theorem pushAll_yields (more : List α) {buffer : Buffer α} (room : buffer.length ≤ buffer.capacity) :
    Yields (fun next => next.length = buffer.length + more.length ∧
      capacityWith (buffer.length + more.length) buffer.capacity = .ok next.capacity) (buffer.pushAll more) := by
  induction more generalizing buffer with
  | nil => exact .pure ⟨rfl, capacityWith_of_le room⟩
  | cons a rest ih =>
      refine (push_yields a buffer).bind fun next ⟨length, grows, stays⟩ => ?_
      intro memory last answered
      have total : next.length + rest.length = buffer.length + (rest.length + 1) := by omega
      rw [List.length_cons, ← total]
      by_cases full : buffer.length = buffer.capacity
      · have made := grows full
        have larger := lt_of_nextCapacity made
        have below : buffer.capacity < next.length + rest.length := by omega
        have fits : next.length ≤ next.capacity := by omega
        rw [capacityWith_step below, made, Except.bind]
        exact ih fits memory last answered
      · have same := stays full
        have fits : next.length ≤ next.capacity := by omega
        rw [← same]
        exact ih fits memory last answered

/-! ## Where there is room -/

theorem expect_of {condition : Bool} (holds : condition = true) (fault : Fault) (memory : Memory) :
    expect condition fault memory = (.ok (), memory) := by
  rw [expect, if_pos holds]
  rfl

theorem fill_of_room {more : List α} {buffer : Buffer α} (room : buffer.length + more.length ≤ buffer.capacity)
    (memory : Memory) :
    ∃ after, buffer.fill more memory = (.ok { buffer with length := buffer.length + more.length }, after) ∧
      after.arena.outline = memory.arena.outline ∧ after.log = memory.log := by
  rw [fill, bind_ok (expect_of (decide_eq_true room) _ memory)]
  cases buffer.place with
  | none => exact ⟨memory, rfl, rfl, rfl⟩
  | some place => exact ⟨_, rfl, Arena.outline_eq_iff.mpr ⟨rfl, rfl, map_outline_modify _ _ _⟩, rfl⟩

theorem growByOne_of_full {buffer : Buffer α} (full : buffer.length = buffer.capacity) (memory : Memory) :
    buffer.growByOne memory =
      match nextCapacity buffer.capacity with
      | .error refusal => (.error (.refused refusal), memory)
      | .ok next => buffer.grow next memory := by
  rw [growByOne, bind_ok (expect_of (decide_eq_true full) _ memory)]
  cases nextCapacity buffer.capacity <;> rfl

theorem push_of_room {a : α} {buffer : Buffer α} (room : buffer.length < buffer.capacity) (memory : Memory) :
    ∃ after, buffer.push a memory = (.ok { buffer with length := buffer.length + 1 }, after) ∧
      after.arena.outline = memory.arena.outline ∧ after.log = memory.log := by
  rw [push, if_neg (Nat.ne_of_lt room)]
  exact @fill_of_room α _ [a] buffer room memory

theorem pushAll_of_room {more : List α} {buffer : Buffer α} (room : buffer.length + more.length ≤ buffer.capacity)
    (memory : Memory) :
    ∃ after, buffer.pushAll more memory = (.ok { buffer with length := buffer.length + more.length }, after) ∧
      after.arena.outline = memory.arena.outline ∧ after.log = memory.log := by
  induction more generalizing buffer memory with
  | nil => exact ⟨memory, rfl, rfl, rfl⟩
  | cons a rest ih =>
      rw [List.length_cons] at room ⊢
      have one : buffer.length < buffer.capacity := by omega
      obtain ⟨middle, pushed, outline, log⟩ := @push_of_room α _ a buffer one memory
      have others : buffer.length + 1 + rest.length ≤ buffer.capacity := by omega
      obtain ⟨after, done, kept, logged⟩ := @ih { buffer with length := buffer.length + 1 } others middle
      have total : buffer.length + 1 + rest.length = buffer.length + (rest.length + 1) := by omega
      simp only [total] at done
      refine ⟨after, ?_, kept.trans outline, logged.trans log⟩
      rw [pushAll, bind_ok pushed, done]

end Buffer

/-! ## Where the system gives up -/

theorem System.provides?_eq_none_iff {system : System} (limited : system.RefusesFrom refusedFrom)
    {before capacity : Nat} : system.provides? before capacity = none ↔ refusedFrom ≤ capacity := by
  by_cases bounded : capacity + Region.alignment ≤ Layout.bound
  · rw [provides?_of_le system before bounded]
    exact limited before capacity
  · have large := Nat.not_le.mp bounded
    have beyond : refusedFrom + Region.alignment ≤ Layout.bound := by decide
    have refused : refusedFrom ≤ capacity := by omega
    simp only [provides?_of_lt system before large, refused]

theorem System.lt_of_provides? {system : System} (limited : system.RefusesFrom refusedFrom)
    {before capacity base : Nat} (placed : system.provides? before capacity = some base) : capacity < refusedFrom := by
  by_contra large
  rw [(provides?_eq_none_iff limited).mpr (Nat.not_lt.mp large)] at placed
  cases placed

theorem Memory.create_modest {system : System} {options : Options} {request : Nat} {memory : Memory}
    (limited : system.RefusesFrom System.refusedFrom) (created : create system options request = .ok memory) :
    options.regionCapacity < System.refusedFrom := by
  obtain ⟨base, placed, _⟩ := eq_of_create created
  have small := System.lt_of_provides? limited placed
  omega

section

variable {system : System} {options : Options} {memory : Memory}

theorem Memory.Provided.allocate_ok_iff (provided : memory.Provided system options)
    (limited : system.RefusesFrom System.refusedFrom) (modest : options.regionCapacity < System.refusedFrom)
    {layout : Layout} (aligned : layout.align ≤ Region.alignment) :
    (∃ place, (MemoryM.allocate layout memory).1 = .ok place) ↔ layout.size < System.refusedFrom := by
  have one : 1 < System.refusedFrom := by decide
  have grows : System.refusedFrom ≤ options.growth layout ↔ System.refusedFrom ≤ layout.size := by
    unfold Options.growth
    omega
  rcases answered : (MemoryM.allocate layout memory).1 with failure | place
  · obtain ⟨_, refused, _⟩ := provided.allocate_eq_error_iff.mp answered
    rw [System.provides?_eq_none_iff limited, grows] at refused
    simp only [reduceCtorEq, exists_false, Nat.not_lt.mpr refused]
  · simp only [Except.ok.injEq, exists_eq', true_iff]
    by_contra large
    have refused := grows.mpr (Nat.not_lt.mp large)
    have full : memory.Full layout := by
      intro region member fits
      obtain ⟨before, base, placed⟩ := provided.regions region member
      have small := System.lt_of_provides? limited placed
      unfold Region.Fits at fits
      omega
    have failed := provided.allocate_eq_error_iff.mpr
      ⟨full, (System.provides?_eq_none_iff limited).mpr refused, rfl⟩
    rw [answered] at failed
    cases failed

namespace Buffer

variable {α : Type} [Storable α] {buffer : Buffer α} {elements : List α}

theorem Stands.layout {ledger : Ledger} (stands : buffer.Stands elements ledger) :
    ∃ layout, (Storable.layoutOf α).array? buffer.capacity = some layout := by
  cases stands with
  | unplaced _ _ _ empty =>
      cases found : (Storable.layoutOf α).array? buffer.capacity with
      | some layout => exact ⟨layout, rfl⟩
      | none =>
          have large : Layout.bound < buffer.capacity * Storable.widthOf α + (Storable.layoutOf α).align :=
            (Layout.of?_eq_none_iff (Storable.layoutOf α).powerOfTwo).mp found
          have bounded := (Storable.layoutOf α).bounded
          omega
  | placed _ _ _ found => exact ⟨_, found⟩

theorem blockLayout_of_array? {capacity : Nat} {layout : Layout}
    (found : (Storable.layoutOf α).array? capacity = some layout) (memory : Memory) :
    ofRefusal (blockLayout α capacity) memory = (.ok layout, memory) := by
  rw [blockLayout, found]
  rfl

theorem Stands.reallocate_ok_iff {ledger frame : Ledger} {capacity : Nat} {old new : Layout}
    (stands : buffer.Stands elements ledger) (holds : memory.Holds (ledger ++ frame))
    (before : (Storable.layoutOf α).array? buffer.capacity = some old)
    (after : (Storable.layoutOf α).array? capacity = some new) :
    (∃ place, (reallocate buffer.place old new.size memory).1 = .ok place) ↔
      ∃ place, (allocate new memory).1 = .ok place := by
  have found : old.resize? new.size = some new :=
    Layout.of?_eq_some_iff.mpr ⟨rfl, (Layout.array?_eq_some after).2.trans (Layout.array?_eq_some before).2.symm⟩
  rcases allocated : allocate new memory with ⟨failure | place, carved⟩
  · rw [reallocate, found]
    simp only
    rw [bind_error allocated]
  · cases stands with
    | unplaced nowhere _ _ _ =>
        rw [nowhere, reallocate, found]
        simp only
        rw [bind_ok allocated, pure_apply]
    | placed here _ _ given =>
        rw [given, Option.some.injEq] at before
        subst before
        obtain ⟨filled, done, _⟩ := reallocate_of_held holds found allocated
        rw [here, done]

/-- Whether there is a block for the required number of elements of some width, if a buffer of some
capacity needs one. -/
def Accommodates (width required capacity : Nat) : Prop :=
  ∃ last, capacityWith required capacity = .ok last ∧ (required ≤ capacity ∨ last * width < System.refusedFrom)

theorem accommodates_step {width required capacity : Nat} (below : capacity < required) :
    Accommodates width required capacity ↔
      ∃ next, nextCapacity capacity = .ok next ∧ next * width < System.refusedFrom ∧
        Accommodates width required next := by
  unfold Accommodates
  rw [capacityWith_step below]
  constructor
  · rintro ⟨last, made, enough | small⟩
    · exact absurd enough (Nat.not_le.mpr below)
    · cases stepped : nextCapacity capacity with
      | error refusal =>
          rw [stepped] at made
          cases made
      | ok next =>
          rw [stepped, Except.bind] at made
          have grown := Nat.mul_le_mul_right width (capacity_le_of_capacityWith made)
          exact ⟨next, rfl, Nat.lt_of_le_of_lt grown small, last, made, .inr small⟩
  · rintro ⟨next, stepped, small, last, made, fits⟩
    rw [stepped, Except.bind]
    refine ⟨last, made, .inr ?_⟩
    rcases fits with enough | small
    · rw [capacityWith_of_le enough, Except.ok.injEq] at made
      exact made ▸ small
    · exact small

structure Ready (system : System) (options : Options) (memory : Memory) (buffer : Buffer α) (elements : List α) :
    Prop where
  provided : memory.Provided system options
  word : buffer.capacity < Word.limit
  stands : ∃ ledger frame, buffer.Stands elements ledger ∧ memory.Holds (ledger ++ frame)

namespace Ready

theorem room (ready : buffer.Ready system options memory elements) : buffer.length ≤ buffer.capacity := by
  obtain ⟨ledger, frame, stands, _⟩ := ready.stands
  exact stands.length_eq ▸ stands.room

theorem action (ready : buffer.Ready system options memory elements) (action : Action α) {next : Buffer α}
    {after : Memory} (done : action.run buffer memory = (.ok next, after)) :
    next.Ready system options after (elements ++ action.appends) := by
  obtain ⟨ledger, frame, stands, holds⟩ := ready.stands
  have outcome := action_triple stands action frame memory holds
  have provided := (Memory.Provided.invariant system options).action buffer action memory ready.provided
  have counted := action_counted ⟨ready.room, ready.word⟩ action memory next (congrArg Prod.fst done)
  rw [done] at outcome provided
  cases outcome with
  | done _ given held => exact ⟨provided, counted.word, _, frame, given, held⟩

section

variable (limited : system.RefusesFrom System.refusedFrom) (modest : options.regionCapacity < System.refusedFrom)
  (aligned : (Storable.layoutOf α).align ≤ Region.alignment)

include limited modest aligned

theorem grow_ok_iff (ready : buffer.Ready system options memory elements) {capacity : Nat}
    (larger : buffer.capacity < capacity) :
    (∃ grown, (buffer.grow capacity memory).1 = .ok grown) ↔
      capacity * Storable.widthOf α < System.refusedFrom := by
  obtain ⟨ledger, frame, stands, holds⟩ := ready.stands
  obtain ⟨old, before⟩ := stands.layout
  rw [grow, bind_ok (expect_of (decide_eq_true larger) _ memory), bind_ok (blockLayout_of_array? before memory)]
  cases after : (Storable.layoutOf α).array? capacity with
  | none =>
      have failed : ofRefusal (blockLayout α capacity) memory = (.error (.refused (overflow capacity)), memory) := by
        rw [blockLayout, after]
        rfl
      have large := (Layout.of?_eq_none_iff (Storable.layoutOf α).powerOfTwo).mp after
      have beyond : System.refusedFrom + Region.alignment ≤ Layout.bound := by decide
      have refused : System.refusedFrom ≤ capacity * Storable.widthOf α := by
        unfold Storable.widthOf
        omega
      rw [bind_error failed]
      simp only [reduceCtorEq, exists_false, Nat.not_lt.mpr refused]
  | some new =>
      obtain ⟨size, align⟩ := Layout.array?_eq_some after
      have moves : (∃ place, (reallocate buffer.place old new.size memory).1 = .ok place) ↔
          capacity * Storable.widthOf α < System.refusedFrom := by
        rw [stands.reallocate_ok_iff holds before after,
          ready.provided.allocate_ok_iff limited modest (align ▸ aligned), size]
        rfl
      rw [bind_ok (blockLayout_of_array? after memory), ← moves]
      rcases moved : reallocate buffer.place old new.size memory with ⟨failure | place, carved⟩
      · rw [bind_error moved]
        simp only [reduceCtorEq, exists_false]
      · rw [bind_ok moved, bind_ok (note_apply _ carved), pure_apply]
        simp only [Except.ok.injEq, exists_eq']

theorem reserve_ok_iff (ready : buffer.Ready system options memory elements) (additional : Nat) :
    (∃ roomy, (buffer.reserve additional memory).1 = .ok roomy) ↔
      Accommodates (Storable.widthOf α) (buffer.length + additional) buffer.capacity := by
  by_cases word : buffer.length + additional < Word.limit
  · rw [reserve, Word.add?, if_pos word]
    simp only
    by_cases enough : buffer.length + additional ≤ buffer.capacity
    · rw [if_pos enough]
      simp only [Accommodates, capacityWith_of_le enough, enough, true_or, and_true, Except.ok.injEq, exists_eq']
      exact ⟨fun _ => trivial, fun _ => ⟨buffer, rfl⟩⟩
    · have below := Nat.not_le.mp enough
      rw [if_neg enough, Accommodates, capacityWith_of_lt below]
      cases made : capacityFor (buffer.length + additional) buffer.capacity with
      | error refusal =>
          simp only [reduceCtorEq, false_and, exists_false, iff_false, not_exists]
          rintro roomy answered
          cases answered
      | ok capacity =>
          have larger : buffer.capacity < capacity := Nat.lt_of_lt_of_le below (le_of_capacityFor made)
          have grows := ready.grow_ok_iff limited modest aligned larger
          simp only [Except.ok.injEq, exists_eq_left', enough, false_or, ← grows]
          rfl
  · rw [reserve, Word.add?, if_neg word]
    constructor
    · rintro ⟨roomy, answered⟩
      cases answered
    · rintro ⟨last, made, _⟩
      have enough := le_capacityWith made
      have small := capacityWith_lt ready.word made
      omega

theorem extend_ok_iff (ready : buffer.Ready system options memory elements) (more : List α) :
    (∃ next, (buffer.extend more memory).1 = .ok next) ↔
      Accommodates (Storable.widthOf α) (buffer.length + more.length) buffer.capacity := by
  rw [← ready.reserve_ok_iff limited modest aligned, extend]
  rcases reserved : buffer.reserve more.length memory with ⟨failure | roomy, middle⟩
  · rw [bind_error reserved]
  · obtain ⟨length, made⟩ := reserve_yields more.length buffer memory roomy (congrArg Prod.fst reserved)
    have room : roomy.length + more.length ≤ roomy.capacity := length ▸ le_capacityWith made
    obtain ⟨after, filled, _⟩ := fill_of_room room middle
    rw [bind_ok reserved, filled]
    simp only [Except.ok.injEq, exists_eq']

theorem push_ok_iff (ready : buffer.Ready system options memory elements) (full : buffer.length = buffer.capacity)
    (a : α) :
    (∃ next, (buffer.push a memory).1 = .ok next) ↔
      ∃ next, nextCapacity buffer.capacity = .ok next ∧ next * Storable.widthOf α < System.refusedFrom := by
  have growing := growByOne_of_full full memory
  rw [push, if_pos full]
  cases made : nextCapacity buffer.capacity with
  | error refusal =>
      rw [made] at growing
      rw [bind_error growing]
      simp only [reduceCtorEq, false_and, exists_false]
  | ok next =>
      rw [made] at growing
      have larger := lt_of_nextCapacity made
      have grows := ready.grow_ok_iff limited modest aligned larger
      simp only [Except.ok.injEq, exists_eq_left', ← grows]
      rcases grown : buffer.grow next memory with ⟨failure | roomy, middle⟩
      · rw [bind_error (growing.trans grown)]
      · obtain ⟨length, capacity⟩ := grow_yields next buffer memory roomy (congrArg Prod.fst grown)
        have one : roomy.length + [a].length = roomy.length + 1 := rfl
        have room : roomy.length + [a].length ≤ roomy.capacity := by omega
        obtain ⟨after, filled, _⟩ := fill_of_room room middle
        rw [bind_ok (growing.trans grown), filled]
        simp only [Except.ok.injEq, exists_eq']

theorem pushAll_ok_iff (ready : buffer.Ready system options memory elements) (more : List α) :
    (∃ next, (buffer.pushAll more memory).1 = .ok next) ↔
      Accommodates (Storable.widthOf α) (buffer.length + more.length) buffer.capacity := by
  induction more generalizing buffer elements memory with
  | nil => exact ⟨fun _ => ⟨_, capacityWith_of_le ready.room, .inl ready.room⟩, fun _ => ⟨buffer, rfl⟩⟩
  | cons a rest ih =>
      rw [pushAll, List.length_cons]
      rcases pushed : buffer.push a memory with ⟨failure | next, middle⟩
      · rw [bind_error pushed]
        simp only [reduceCtorEq, exists_false, false_iff]
        -- Where there is room a push succeeds, so the buffer is full and could not take one step.
        have room := ready.room
        have full : buffer.length = buffer.capacity := by
          by_contra notFull
          obtain ⟨after, done, _⟩ := @push_of_room α _ a buffer (by omega) memory
          cases done.symm.trans pushed
        intro accommodates
        obtain ⟨capacity, made, small, _⟩ := (accommodates_step (by omega)).mp accommodates
        obtain ⟨next, done⟩ := (ready.push_ok_iff limited modest aligned full a).mpr ⟨capacity, made, small⟩
        rw [pushed] at done
        cases done
      · obtain ⟨length, grows, stays⟩ := push_yields a buffer memory next (congrArg Prod.fst pushed)
        have others := ready.action (.push a) pushed
        have total : next.length + rest.length = buffer.length + (rest.length + 1) := by omega
        rw [bind_ok pushed, ih others, total]
        by_cases full : buffer.length = buffer.capacity
        · obtain ⟨capacity, made, small⟩ :=
            (ready.push_ok_iff limited modest aligned full a).mp ⟨next, congrArg Prod.fst pushed⟩
          obtain rfl : capacity = next.capacity := Except.ok.inj (made.symm.trans (grows full))
          rw [@accommodates_step _ _ buffer.capacity (by omega)]
          constructor
          · exact fun accommodates => ⟨_, made, small, accommodates⟩
          · rintro ⟨other, same, _, accommodates⟩
            exact Except.ok.inj (same.symm.trans made) ▸ accommodates
        · rw [stays full]

end

theorem toList_eq (ready : buffer.Ready system options memory elements) :
    buffer.toList memory = (.ok elements, memory) := by
  obtain ⟨ledger, frame, stands, holds⟩ := ready.stands
  exact stands.loads memory holds.left

theorem pushed (ready : buffer.Ready system options memory elements) {more : List α} {next : Buffer α} {after : Memory}
    (done : buffer.pushAll more memory = (.ok next, after)) :
    next.Ready system options after (elements ++ more) := by
  induction more generalizing buffer elements memory with
  | nil =>
      cases done
      rw [List.append_nil]
      exact ready
  | cons a rest ih =>
      rw [pushAll] at done
      rcases pushed : buffer.push a memory with ⟨failure | middle, between⟩
      · rw [bind_error pushed] at done
        cases done
      · rw [bind_ok pushed] at done
        have rests := ih (ready.action (.push a) pushed) done
        rw [List.append_assoc] at rests
        exact rests

end Ready

end Buffer

end

theorem exists_error_iff {ε β : Type} {result : Except ε β} : (∃ e, result = .error e) ↔ ¬∃ b, result = .ok b := by
  cases result <;> simp

theorem Host.Lists.ready {system : System} {options : Options} {host : Host} {α : Type} [Storable α]
    {buffer : Buffer α} {elements : List α} (lists : host.Lists buffer elements) (sound : host.Sound)
    (provided : host.client.memory.Provided system options) (word : buffer.capacity < Word.limit) :
    buffer.Ready system options host.client.memory elements :=
  ⟨provided, word, lists.stands sound⟩

/-- In every state that a host reaches, extending a buffer and pushing to it lead to the same length,
capacity and elements; its capacity is a word, as counts are. If the system refuses the regions from
`2 ^ 30` bytes on and no others, both fail or neither does. A buffer that was made roomy takes as many
pushes as it has room for, in whatever state the arena is by then, and all they do to it is to write. -/
theorem extending_agrees_with_pushing {system : System} {options : Options} {request : Nat} {memory : Memory}
    {host : Host} (sound : system.Sound) (created : Memory.create system options request = .ok memory)
    (reaches : (Host.start memory).Reaches host) {α : Type} [Storable α] {buffer : Buffer α} {appended : List α}
    (lists : host.Lists buffer appended) (word : buffer.capacity < Word.limit) (more : List α) :
    (∀ extended after pushed last, buffer.extend more host.client.memory = (.ok extended, after) →
      buffer.pushAll more host.client.memory = (.ok pushed, last) →
        extended.length = pushed.length ∧ extended.capacity = pushed.capacity ∧
          extended.toList after = (.ok (appended ++ more), after) ∧
          pushed.toList last = (.ok (appended ++ more), last)) ∧
      (system.RefusesFrom System.refusedFrom → (Storable.layoutOf α).align ≤ Region.alignment →
        ((∃ failure, (buffer.extend more host.client.memory).1 = .error failure) ↔
          ∃ failure, (buffer.pushAll more host.client.memory).1 = .error failure)) ∧
      ∀ additional roomy after, buffer.reserve additional host.client.memory = (.ok roomy, after) →
        more.length ≤ additional → ∀ later, ∃ last,
          roomy.pushAll more later = (.ok { roomy with length := roomy.length + more.length }, last) ∧
            last.arena.outline = later.arena.outline ∧ last.log = later.log := by
  have hosts := reaches.sound (Host.start_sound (Memory.create_holds sound created))
  have ready := lists.ready hosts (reaches.provided sound created) word
  refine ⟨?_, ?_, ?_⟩
  · intro extended after pushed last extending pushing
    obtain ⟨length, made⟩ := Buffer.extend_yields more buffer _ extended (congrArg Prod.fst extending)
    obtain ⟨same, grown⟩ := Buffer.pushAll_yields more ready.room _ pushed (congrArg Prod.fst pushing)
    have whole := ready.action (.extend more) extending
    exact ⟨length.trans same.symm, Except.ok.inj (made.symm.trans grown), whole.toList_eq,
      (ready.pushed pushing).toList_eq⟩
  · intro limited aligned
    have modest := Memory.create_modest limited created
    rw [exists_error_iff, exists_error_iff, ready.extend_ok_iff limited modest aligned,
      ready.pushAll_ok_iff limited modest aligned]
  · intro additional roomy after reserved few later
    obtain ⟨length, made⟩ := Buffer.reserve_yields additional buffer _ roomy (congrArg Prod.fst reserved)
    have enough := Buffer.le_capacityWith made
    exact Buffer.pushAll_of_room (by omega) later

/-- A vector with room for three grows twice while seven elements are pushed, so extending it by them
makes room for twelve at once. -/
theorem extending_agrees_with_pushing_grown :
    System.paged.Sound ∧ Memory.create .paged ⟨64⟩ 0 = .ok .small ∧
      ∃ (host : Host) (buffer extended : Buffer UInt16) (more : List UInt16) (after : Memory),
        (Host.start .small).Reaches host ∧ host.Lists buffer [] ∧ buffer.capacity = 3 ∧ more.length = 7 ∧
          buffer.extend more host.client.memory = (.ok extended, after) ∧ extended.capacity = 12 ∧
            extended.toList after = (.ok more, after) := by
  obtain ⟨host, reaches, held⟩ : ∃ host, (Host.start .small).Reaches host ∧
      host = (Host.start .small).settle (Buffer.withCapacity 3) fun buffer : Buffer UInt16 => [.vector buffer []] :=
    ⟨_, .single (@Host.Step.sized (Host.start .small) UInt16 _ 3), rfl⟩
  have lists : host.Lists (⟨some ⟨0, 0⟩, 0, 3⟩ : Buffer UInt16) [] := .vector (@congrArg _ _ _ _ (·.holdings[0]?) held)
  have word : 3 < Word.limit := by decide
  have grows : ((⟨some ⟨0, 0⟩, 0, 3⟩ : Buffer UInt16).pushAll (List.replicate 7 5) host.client.memory).1.toOption.map
      Buffer.capacity = some 12 := by
    rw [held]
    decide +kernel
  have agrees := extending_agrees_with_pushing System.paged_sound Memory.small_created reaches lists word
    (List.replicate 7 5)
  have fails := agrees.2.1 System.paged_refusesFrom (by decide)
  rcases pushing : (⟨some ⟨0, 0⟩, 0, 3⟩ : Buffer UInt16).pushAll (List.replicate 7 5) host.client.memory
    with ⟨failure | pushed, last⟩
  · rw [pushing] at grows
    cases grows
  rcases extending : (⟨some ⟨0, 0⟩, 0, 3⟩ : Buffer UInt16).extend (List.replicate 7 5) host.client.memory
    with ⟨failure | extended, after⟩
  · rw [extending, pushing] at fails
    obtain ⟨_, never⟩ := fails.mp ⟨failure, rfl⟩
    cases never
  · obtain ⟨_, capacity, whole, _⟩ := agrees.1 extended after pushed last extending pushing
    rw [pushing] at grows
    exact ⟨System.paged_sound, Memory.small_created, host, _, extended, _, after, reaches, lists, rfl, rfl, extending,
      capacity.trans (Option.some.inj grows), whole⟩

end ArenaLang
