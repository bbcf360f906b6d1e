import ArenaLang.Proofs.Appending
import Mathlib.Order.Bounds.Defs
import Mathlib.Order.Monotone.Basic

/-!
# Capacities

The capacities that a buffer takes one after another are settled by the one it was made with: the
first is that, the second twice as much and at least four, and from then on each is twice the last.
The capacity of a buffer is the least of them that meets all that was ever required of it. Buffers
of elements without size never grow, and nothing done to them changes an arena.
-/

namespace ArenaLang

open MemoryM

namespace MemoryM

variable {α β : Type} {step : MemoryM α} {next : α → MemoryM β} {given : α → Prop}

theorem Still.bind_of (first : Still step) (yields : Yields given step) (second : ∀ a, given a → Still (next a)) :
    Still (step >>= next) := by
  intro memory
  have same := first memory
  rcases done : step memory with ⟨failure | a, after⟩
  · rw [done] at same
    rw [bind_error done]
    exact same
  · rw [done] at same
    rw [bind_ok done]
    exact (second a (yields memory a (congrArg Prod.fst done)) after).trans same

theorem Still.bind (first : Still step) (second : ∀ a, Still (next a)) : Still (step >>= next) :=
  have any : Yields (fun _ => True) step := fun _ _ _ => trivial
  first.bind_of any fun a _ => second a

theorem found_still (known : Option α) : Still (found known) := by
  cases known with
  | none => exact .throw _
  | some a => exact .pure a

theorem loadAll_still [Storable α] (slice : Slice) : Still (loadAll α slice) := by
  have reading : Still (readSlice (Storable.widthOf α) slice) := by
    unfold readSlice
    cases slice.place with
    | none => exact .pure _
    | some place => exact read_still place _
  exact reading.bind fun _ => found_still _

end MemoryM

namespace Buffer

/-! ## The capacities of a buffer -/

def growth (initial : Nat) : Nat → Nat
  | 0 => initial
  | steps + 1 => max (2 * initial) leastCapacity * 2 ^ steps

def Fitting (initial : Nat) (required : List Nat) : Set Nat :=
  {capacity | (∃ steps, capacity = growth initial steps) ∧ ∀ count ∈ required, count ≤ capacity}

theorem growth_strictMono (initial : Nat) : StrictMono (growth initial) := by
  apply strictMono_nat_of_lt_succ
  intro steps
  have positive : 0 < leastCapacity := by decide
  cases steps with
  | zero =>
      simp only [growth, Nat.pow_zero, Nat.mul_one]
      omega
  | succ steps =>
      have power := Nat.two_pow_pos steps
      have least : 0 < max (2 * initial) leastCapacity := by omega
      simp only [growth, Nat.pow_succ]
      exact Nat.mul_lt_mul_of_pos_left (by omega) least

theorem growth_growth (initial first more : Nat) :
    growth (growth initial first) more = growth initial (first + more) := by
  cases more with
  | zero => rfl
  | succ more =>
      cases first with
      | zero => rw [Nat.zero_add]; rfl
      | succ first =>
          have power := Nat.two_pow_pos first
          have least : leastCapacity ≤ max (2 * initial) leastCapacity * 2 ^ first :=
            Nat.le_trans (Nat.le_max_right _ _) (Nat.le_mul_of_pos_right _ power)
          have doubled : max (2 * (max (2 * initial) leastCapacity * 2 ^ first)) leastCapacity =
              max (2 * initial) leastCapacity * 2 ^ first * 2 := by omega
          have steps : first + 1 + (more + 1) = (first + 1 + more) + 1 := by omega
          rw [steps]
          simp only [growth]
          rw [doubled, Nat.mul_assoc, Nat.mul_assoc, ← Nat.pow_succ', ← Nat.pow_add]
          congr 2
          omega

theorem isLeast_growth {initial steps : Nat} {required : List Nat}
    (enough : ∀ count ∈ required, count ≤ growth initial steps)
    (before : ∀ earlier < steps, ∃ count ∈ required, growth initial earlier < count) :
    IsLeast (Fitting initial required) (growth initial steps) := by
  refine ⟨⟨⟨steps, rfl⟩, enough⟩, ?_⟩
  rintro _ ⟨⟨other, rfl⟩, fits⟩
  apply (growth_strictMono initial).monotone
  by_contra earlier
  obtain ⟨count, member, below⟩ := before other (Nat.not_le.mp earlier)
  exact absurd (fits count member) (Nat.not_le.mpr below)

theorem isLeast_start (initial : Nat) : IsLeast (Fitting initial []) initial :=
  @isLeast_growth initial 0 [] (by simp) (by simp)

theorem isLeast_append {initial capacity next : Nat} {required more : List Nat}
    (least : IsLeast (Fitting initial required) capacity) (grown : IsLeast (Fitting capacity more) next) :
    IsLeast (Fitting initial (required ++ more)) next := by
  obtain ⟨⟨⟨first, rfl⟩, met⟩, lowest⟩ := least
  obtain ⟨⟨⟨steps, rfl⟩, meets⟩, lowestNext⟩ := grown
  have larger : growth initial first ≤ growth (growth initial first) steps :=
    (growth_strictMono _).monotone (Nat.zero_le steps)
  refine ⟨⟨⟨first + steps, growth_growth _ _ _⟩, ?_⟩, ?_⟩
  · intro count member
    rcases List.mem_append.mp member with before | behind
    · exact Nat.le_trans (met count before) larger
    · exact meets count behind
  · rintro _ ⟨⟨other, rfl⟩, fits⟩
    -- What meets the earlier requirements is no earlier capacity, so it is one of those from there on.
    have behind := lowest ⟨⟨other, rfl⟩, fun count member => fits count (List.mem_append_left _ member)⟩
    obtain ⟨rest, rfl⟩ := Nat.exists_eq_add_of_le ((growth_strictMono initial).le_iff_le.mp behind)
    rw [← growth_growth]
    exact lowestNext ⟨⟨rest, rfl⟩, fun count member => growth_growth _ _ _ ▸ fits count (List.mem_append_right _ member)⟩

/-! ## How doubling ends -/

theorem nextCapacity_eq (capacity : Nat) :
    nextCapacity capacity =
      if 2 * capacity < Word.limit then .ok (growth capacity 1) else .error (overflow capacity) := by
  rw [nextCapacity, Word.mul?, Nat.mul_comm]
  by_cases word : 2 * capacity < Word.limit
  · simp only [if_pos word, growth, Nat.pow_zero, Nat.mul_one]
  · simp only [if_neg word]

inductive Ends (required capacity : Nat) : Except Refusal Nat → Prop
  | enough {steps : Nat} (fits : required ≤ growth capacity steps)
      (before : ∀ earlier < steps, growth capacity earlier < required) :
      Ends required capacity (.ok (growth capacity steps))
  | overflow {steps : Nat} (below : growth capacity steps < required)
      (large : Word.limit ≤ 2 * growth capacity steps) :
      Ends required capacity (.error (Buffer.overflow (growth capacity steps)))

theorem Ends.further {required capacity : Nat} {result : Except Refusal Nat} (below : capacity < required)
    (ends : Ends required (growth capacity 1) result) : Ends required capacity result := by
  cases ends with
  | @enough steps fits before =>
      rw [growth_growth] at fits ⊢
      refine .enough fits ?_
      intro earlier less
      cases earlier with
      | zero => exact below
      | succ earlier =>
          have first := before earlier (by omega)
          rwa [growth_growth, Nat.add_comm] at first
  | overflow beneath large =>
      rw [growth_growth] at beneath large ⊢
      exact .overflow beneath large

theorem capacityWith_ends (required capacity : Nat) : Ends required capacity (capacityWith required capacity) := by
  by_cases enough : required ≤ capacity
  · rw [capacityWith_of_le enough]
    exact @Ends.enough required capacity 0 enough fun _ none => absurd none (Nat.not_lt_zero _)
  · have below := Nat.not_le.mp enough
    have larger : capacity < growth capacity 1 := growth_strictMono capacity Nat.zero_lt_one
    rw [capacityWith_step below, nextCapacity_eq]
    by_cases word : 2 * capacity < Word.limit
    · rw [if_pos word, Except.bind]
      exact (capacityWith_ends required (growth capacity 1)).further below
    · rw [if_neg word, Except.bind]
      exact @Ends.overflow required capacity 0 below (Nat.not_lt.mp word)
termination_by required - capacity

theorem capacityWith_isLeast {required capacity next : Nat} (made : capacityWith required capacity = .ok next) :
    IsLeast (Fitting capacity [required]) next := by
  have ends := capacityWith_ends required capacity
  rw [made] at ends
  cases ends with
  | enough fits before =>
      apply isLeast_growth
      · simpa using fits
      · simpa using before

/-! ## What is required -/

section

variable {α : Type}

def Action.room : Action α → Nat
  | .push _ => 1
  | .extend elements => elements.length
  | .reserve additional => additional

def Action.Appends : Action α → Prop
  | .reserve _ => False
  | _ => True

def requirements (length : Nat) : List (Action α) → List Nat
  | [] => []
  | action :: rest => (length + action.room) :: requirements (length + action.appends.length) rest

theorem Action.appends_le_room (action : Action α) : action.appends.length ≤ action.room := by
  cases action with
  | push a => exact Nat.le_refl _
  | extend elements => exact Nat.le_refl _
  | reserve additional => exact Nat.zero_le _

theorem Action.Appends.room_eq {action : Action α} (appends : action.Appends) :
    action.room = action.appends.length := by
  cases action with
  | push a => rfl
  | extend elements => rfl
  | reserve additional => cases appends

variable [Storable α]

/-- Whether actions that succeed lead from one buffer to another, each in whatever memory there is by
then. -/
inductive Runs : Buffer α → List (Action α) → Buffer α → Prop
  | nil (buffer : Buffer α) : Runs buffer [] buffer
  | cons {buffer next last : Buffer α} {action : Action α} {rest : List (Action α)} {memory : Memory}
      (done : (action.run buffer memory).1 = .ok next) (runs : Runs next rest last) :
      Runs buffer (action :: rest) last

theorem action_yields (action : Action α) {buffer : Buffer α} (room : buffer.length ≤ buffer.capacity) :
    Yields (fun next => next.length = buffer.length + action.appends.length ∧
      capacityWith (buffer.length + action.room) buffer.capacity = .ok next.capacity) (action.run buffer) := by
  cases action with
  | push a =>
      intro memory next done
      obtain ⟨length, grows, stays⟩ := push_yields a buffer memory next done
      refine ⟨length, ?_⟩
      by_cases full : buffer.length = buffer.capacity
      · have made := grows full
        have larger := lt_of_nextCapacity made
        have below : buffer.capacity < buffer.length + 1 := by omega
        have enough : buffer.length + 1 ≤ next.capacity := by omega
        show capacityWith (buffer.length + 1) buffer.capacity = _
        rw [capacityWith_step below, made, Except.bind, capacityWith_of_le enough]
      · have enough : buffer.length + 1 ≤ buffer.capacity := by omega
        rw [stays full]
        exact capacityWith_of_le enough
  | extend elements => exact extend_yields elements buffer
  | reserve additional => exact reserve_yields additional buffer

variable {buffer next last : Buffer α} {action : Action α} {actions : List (Action α)} {initial additional : Nat}
  {required : List Nat}

theorem Runs.isLeast (runs : Runs buffer actions last) (room : buffer.length ≤ buffer.capacity)
    (least : IsLeast (Fitting initial required) buffer.capacity) :
    last.length ≤ last.capacity ∧
      IsLeast (Fitting initial (required ++ requirements buffer.length actions)) last.capacity := by
  induction runs generalizing required with
  | nil buffer => exact ⟨room, (List.append_nil required).symm ▸ least⟩
  | @cons buffer next last action rest memory done runs ih =>
      obtain ⟨length, made⟩ := action_yields action room memory next done
      have enough := le_capacityWith made
      have few := action.appends_le_room
      have grown := ih (by omega) (isLeast_append least (capacityWith_isLeast made))
      rw [List.append_assoc, length] at grown
      exact grown

theorem Runs.capacity_le (runs : Runs buffer actions last) (room : buffer.length ≤ buffer.capacity) :
    buffer.capacity ≤ last.capacity := by
  obtain ⟨⟨⟨steps, grown⟩, _⟩, _⟩ := (runs.isLeast room (isLeast_start _)).2
  exact grown ▸ (growth_strictMono buffer.capacity).monotone (Nat.zero_le steps)

theorem Runs.length_eq (runs : Runs buffer actions last) (room : buffer.length ≤ buffer.capacity)
    (appending : ∀ action ∈ actions, action.Appends) :
    buffer.length ≤ last.length ∧ (∀ count ∈ requirements buffer.length actions, count ≤ last.length) := by
  induction runs with
  | nil buffer => exact ⟨Nat.le_refl _, fun _ none => absurd none List.not_mem_nil⟩
  | @cons buffer next last action rest memory done runs ih =>
      obtain ⟨length, made⟩ := action_yields action room memory next done
      have enough := le_capacityWith made
      have same := (appending action List.mem_cons_self).room_eq
      obtain ⟨longer, met⟩ := ih (by omega) fun other member => appending other (List.mem_cons_of_mem _ member)
      refine ⟨by omega, ?_⟩
      intro count member
      rw [requirements, ← length] at member
      rcases List.mem_cons.mp member with rfl | behind
      · omega
      · exact met count behind

theorem withCapacity_yields (initial : Nat) (sized : 0 < Storable.widthOf α) :
    Yields (fun made : Buffer α => made.length = 0 ∧ made.capacity = initial) (withCapacity initial) := by
  have start : (empty : Buffer α).capacity = 0 := if_neg (Nat.ne_of_gt sized)
  unfold withCapacity
  split
  · exact grow_yields initial empty
  · rename_i none
    exact .pure ⟨rfl, by omega⟩

theorem Runs.isLeast_of_created {memory : Memory} (sized : 0 < Storable.widthOf α)
    (created : (withCapacity initial memory).1 = .ok buffer) (runs : Runs buffer actions last) :
    last.length ≤ last.capacity ∧ IsLeast (Fitting initial (requirements 0 actions)) last.capacity := by
  obtain ⟨length, capacity⟩ := withCapacity_yields initial sized memory buffer created
  have least := runs.isLeast (length ▸ Nat.zero_le _) (isLeast_start _)
  rwa [length, capacity] at least

theorem isLeast_of_appends {length capacity : Nat} {required : List Nat}
    (least : IsLeast (Fitting 0 required) capacity) (room : length ≤ capacity)
    (met : ∀ count ∈ required, count ≤ length) :
    (length = 0 → capacity = 0) ∧
      (0 < length → IsLeast {other | (∃ steps, other = leastCapacity * 2 ^ steps) ∧ length ≤ other} capacity) := by
  have fits {other : Nat} (enough : length ≤ other) : ∀ count ∈ required, count ≤ other :=
    fun count member => Nat.le_trans (met count member) enough
  constructor
  · intro none
    exact Nat.le_zero.mp (least.2 ⟨⟨0, rfl⟩, fits (Nat.le_of_eq none)⟩)
  · intro some
    refine ⟨⟨?_, room⟩, ?_⟩
    · obtain ⟨⟨steps, same⟩, _⟩ := least.1
      cases steps with
      | zero =>
          have empty : capacity = 0 := same
          omega
      | succ steps => exact ⟨steps, same⟩
    · rintro _ ⟨⟨steps, rfl⟩, enough⟩
      exact least.2 ⟨⟨steps + 1, rfl⟩, fits enough⟩

/-! ## Making room -/

structure Reserves (buffer : Buffer α) (additional : Nat) (memory : Memory) : Prop where
  enough : buffer.length + additional ≤ buffer.capacity → buffer.reserve additional memory = (.ok buffer, memory)
  tooMany : Word.limit ≤ buffer.length + additional →
    buffer.reserve additional memory = (.error (.refused (overflow Word.greatest)), memory)
  grows : buffer.capacity < buffer.length + additional → buffer.length + additional < Word.limit →
    ∃ capacity, IsLeast (Fitting buffer.capacity [buffer.length + additional]) capacity ∧
      (capacity < Word.limit → buffer.reserve additional memory = buffer.grow capacity memory) ∧
      (Word.limit ≤ capacity → ∃ steps, growth buffer.capacity steps < Word.limit ∧
        Word.limit ≤ 2 * growth buffer.capacity steps ∧
        buffer.reserve additional memory =
          (.error (.refused (overflow (growth buffer.capacity steps))), memory))

theorem reserve_of_lt (below : buffer.capacity < buffer.length + additional)
    (word : buffer.length + additional < Word.limit) (memory : Memory) :
    buffer.reserve additional memory =
      match capacityWith (buffer.length + additional) buffer.capacity with
      | .ok capacity => buffer.grow capacity memory
      | .error refusal => (.error (.refused refusal), memory) := by
  rw [reserve, Word.add?, if_pos word, capacityWith_of_lt below]
  simp only [if_neg (Nat.not_le.mpr below)]
  cases capacityFor (buffer.length + additional) buffer.capacity <;> rfl

theorem two_mul_growth_le (initial steps : Nat) : 2 * growth initial steps ≤ growth initial (steps + 1) := by
  cases steps with
  | zero =>
      simp only [growth, Nat.pow_zero, Nat.mul_one]
      exact Nat.le_max_left _ _
  | succ steps =>
      simp only [growth, Nat.pow_succ]
      rw [Nat.mul_comm, Nat.mul_assoc]

theorem reserves (word : buffer.capacity < Word.limit) (additional : Nat) (memory : Memory) :
    buffer.Reserves additional memory := by
  refine ⟨?_, ?_, ?_⟩
  · intro enough
    have small : buffer.length + additional < Word.limit := Nat.lt_of_le_of_lt enough word
    rw [reserve, Word.add?, if_pos small]
    simp only [if_pos enough]
    rfl
  · intro large
    rw [reserve, Word.add?, if_neg (Nat.not_lt.mpr large)]
    rfl
  · intro below small
    have reserving := reserve_of_lt below small memory
    have ends := capacityWith_ends (buffer.length + additional) buffer.capacity
    cases made : capacityWith (buffer.length + additional) buffer.capacity with
    | ok capacity =>
        rw [made] at reserving
        refine ⟨capacity, capacityWith_isLeast made, fun _ => reserving, ?_⟩
        intro large
        exact absurd (capacityWith_lt word made) (Nat.not_lt.mpr large)
    | error refusal =>
        rw [made] at reserving ends
        generalize same : (Except.error refusal : Except Refusal Nat) = result at ends
        -- The search went past the last word; the next capacity is the least that would have done.
        cases ends with
        | enough _ _ => cases same
        | @overflow steps beneath large =>
            cases same
            have next := two_mul_growth_le buffer.capacity steps
            refine ⟨growth buffer.capacity (steps + 1), ?_, by omega, fun _ => ⟨steps, by omega, large, reserving⟩⟩
            apply isLeast_growth
            · intro count member
              rw [List.mem_singleton.mp member]
              omega
            · intro earlier before
              refine ⟨_, List.mem_singleton.mpr rfl, ?_⟩
              have lower := (growth_strictMono buffer.capacity).monotone (Nat.le_of_lt_succ before)
              omega

/-! ## Elements without size -/

structure Sizeless (buffer : Buffer α) : Prop where
  unplaced : buffer.place = none
  capacity : buffer.capacity = Word.greatest

theorem nextCapacity_greatest : nextCapacity Word.greatest = .error (overflow Word.greatest) := by
  rw [nextCapacity_eq, if_neg (by decide)]

theorem withCapacity_of_sizeless (sizeless : Storable.widthOf α = 0) (word : initial < Word.limit) :
    (withCapacity initial : MemoryM (Buffer α)) = pure empty := by
  have capacity : (empty : Buffer α).capacity = Word.greatest := if_pos sizeless
  have enough : ¬(empty : Buffer α).capacity < initial := by
    rw [capacity, Word.greatest]
    omega
  rw [withCapacity, if_neg enough]

theorem toList_still (buffer : Buffer α) : Still buffer.toList := loadAll_still buffer.toSlice

namespace Sizeless

theorem start (sizeless : Storable.widthOf α = 0) : (empty : Buffer α).Sizeless := ⟨rfl, if_pos sizeless⟩

omit [Storable α] in
theorem word (sizeless : buffer.Sizeless) : buffer.capacity < Word.limit := by
  rw [sizeless.capacity]
  decide

theorem fill (sizeless : buffer.Sizeless) (elements : List α) :
    Still (buffer.fill elements) ∧ Yields Sizeless (buffer.fill elements) := by
  constructor
  · refine (Still.expect _ _).bind fun _ => ?_
    rw [sizeless.unplaced]
    exact .pure _
  · intro memory filled answered
    rw [fill_yields elements buffer memory filled answered]
    exact ⟨sizeless.unplaced, sizeless.capacity⟩

theorem reserve (sizeless : buffer.Sizeless) (additional : Nat) :
    Still (buffer.reserve additional) ∧ Yields Sizeless (buffer.reserve additional) := by
  have making := reserves sizeless.word additional
  by_cases large : Word.limit ≤ buffer.length + additional
  · refine ⟨fun memory => congrArg Prod.snd ((making memory).tooMany large), fun memory roomy answered => ?_⟩
    rw [(making memory).tooMany large] at answered
    cases answered
  · have enough : buffer.length + additional ≤ buffer.capacity := by
      rw [sizeless.capacity, Word.greatest]
      omega
    refine ⟨fun memory => congrArg Prod.snd ((making memory).enough enough), fun memory roomy answered => ?_⟩
    rw [(making memory).enough enough] at answered
    cases answered
    exact sizeless

theorem push (sizeless : buffer.Sizeless) (a : α) : Still (buffer.push a) ∧ Yields Sizeless (buffer.push a) := by
  unfold Buffer.push
  split
  · -- A full one has as many elements as there are words, so one more is refused.
    rename_i full
    have refused (memory : Memory) :
        buffer.growByOne memory = (.error (.refused (overflow Word.greatest)), memory) := by
      rw [growByOne_of_full full, sizeless.capacity, nextCapacity_greatest]
    refine ⟨fun memory => by rw [bind_error (refused memory)], fun memory next answered => ?_⟩
    rw [bind_error (refused memory)] at answered
    cases answered
  · exact sizeless.fill [a]

theorem act (sizeless : buffer.Sizeless) (action : Action α) :
    Still (action.run buffer) ∧ Yields Sizeless (action.run buffer) := by
  cases action with
  | push a => exact sizeless.push a
  | extend elements =>
      obtain ⟨still, yields⟩ := sizeless.reserve elements.length
      exact ⟨still.bind_of yields fun roomy given => (given.fill elements).1,
        yields.bind fun roomy given => (given.fill elements).2⟩
  | reserve additional => exact sizeless.reserve additional

theorem run (sizeless : buffer.Sizeless) (runs : Runs buffer actions last) : last.Sizeless := by
  induction runs with
  | nil buffer => exact sizeless
  | cons done runs ih => exact ih ((sizeless.act _).2 _ _ done)

end Sizeless

end

/-- The capacity of a buffer that was made with some capacity, after actions that succeeded, is the
least of that one and those that follow it which meets all that the actions required; it never
shrinks, and from nothing it is what the elements need. A buffer ends making room at the first of its
capacities that is enough, or refused if what is asked for or that one is no word. For elements
without size the capacity is the greatest word, and nothing that a buffer does changes memory. -/
theorem capacity_is_least_member {α : Type} [Storable α] {initial : Nat} {memory : Memory} {made last : Buffer α}
    {actions : List (Action α)} (word : initial < Word.limit) (created : (withCapacity initial memory).1 = .ok made)
    (runs : made.Runs actions last) :
    (0 < Storable.widthOf α →
      IsLeast (Fitting initial (requirements 0 actions)) last.capacity ∧
        (∀ more next, last.Runs more next → last.capacity ≤ next.capacity) ∧
        (initial = 0 → (∀ action ∈ actions, action.Appends) →
          (last.length = 0 → last.capacity = 0) ∧
            (0 < last.length → IsLeast {capacity | (∃ steps, capacity = leastCapacity * 2 ^ steps) ∧
              last.length ≤ capacity} last.capacity))) ∧
      (∀ (buffer : Buffer α) (additional : Nat) (later : Memory), buffer.capacity < Word.limit →
        buffer.Reserves additional later) ∧
      (Storable.widthOf α = 0 → last.capacity = Word.greatest ∧ Still (withCapacity initial : MemoryM (Buffer α)) ∧
        (∀ action : Action α, Still (action.run last)) ∧ Still last.toList ∧ ∀ index, Still (last.get? index)) := by
  refine ⟨?_, fun buffer additional later small => reserves small additional later, ?_⟩
  · intro sized
    obtain ⟨room, least⟩ := runs.isLeast_of_created sized created
    refine ⟨least, fun more next further => further.capacity_le room, ?_⟩
    rintro rfl appending
    obtain ⟨length, _⟩ := withCapacity_yields 0 sized memory made created
    obtain ⟨_, met⟩ := runs.length_eq (length ▸ Nat.zero_le _) appending
    exact isLeast_of_appends least room (length ▸ met)
  · intro sizeless
    have making := withCapacity_of_sizeless sizeless word
    rw [making] at created
    cases created
    have settled := (Sizeless.start sizeless).run runs
    refine ⟨settled.capacity, making ▸ .pure _, fun action => (settled.act action).1, last.toList_still, ?_⟩
    exact fun index => last.toList_still.bind fun _ => .pure _

/-- From three, seven elements need twelve, and room for twenty more needs forty-eight. -/
theorem capacity_is_least_member_doubled :
    ∃ made last : Buffer UInt16, (withCapacity 3 .small).1 = .ok made ∧
      made.Runs [.extend (List.replicate 7 5), .reserve 20, .push 1] last ∧ last.capacity = 48 ∧
        IsLeast (Fitting 3 [7, 27, 8]) last.capacity := by
  have created : (withCapacity 3 .small).1 = .ok (⟨some ⟨0, 0⟩, 0, 3⟩ : Buffer UInt16) := rfl
  have extended : ((Action.extend (List.replicate 7 5)).run (⟨some ⟨0, 0⟩, 0, 3⟩ : Buffer UInt16) .small).1 =
      .ok ⟨some ⟨0, 0⟩, 7, 12⟩ := by with_unfolding_all rfl
  have reserved : ((Action.reserve 20).run (⟨some ⟨0, 0⟩, 7, 12⟩ : Buffer UInt16) .small).1 =
      .ok ⟨some ⟨1, 0⟩, 7, 48⟩ := by with_unfolding_all rfl
  have pushed : ((Action.push 1).run (⟨some ⟨1, 0⟩, 7, 48⟩ : Buffer UInt16) .small).1 =
      .ok ⟨some ⟨1, 0⟩, 8, 48⟩ := rfl
  have runs := Runs.cons extended (.cons reserved (.cons pushed (.nil _)))
  exact ⟨_, _, created, runs, rfl, ((capacity_is_least_member (by decide) created runs).1 (by decide)).1⟩

end Buffer

end ArenaLang
