import ArenaLang.Arena.Buffer
import ArenaLang.Proofs.Allocation

namespace ArenaLang

namespace MemoryM

variable {α β : Type} {step : MemoryM α} {next : α → MemoryM β}

def Still (step : MemoryM α) : Prop := ∀ memory, (step memory).2 = memory

def Steady (step : MemoryM α) : Prop := ∀ memory refusal, (step memory).1 ≠ .error (.refused refusal)

def Atomic (step : MemoryM α) : Prop :=
  ∀ memory refusal, (step memory).1 = .error (.refused refusal) → (step memory).2 = memory

theorem Still.atomic (still : Still step) : Atomic step := fun memory _ _ => still memory

theorem Steady.atomic (steady : Steady step) : Atomic step :=
  fun memory refusal refused => absurd refused (steady memory refusal)

theorem Still.pure (a : α) : Still (pure a) := fun _ => rfl

theorem Still.refuse (refusal : Refusal) : Still (α := α) (refuse refusal) := fun _ => rfl

theorem Still.regions : Still regions := fun _ => rfl

theorem Still.ofFault (result : Except Fault α) : Still (ofFault result) := by
  intro memory
  cases result <;> rfl

theorem Steady.pure (a : α) : Steady (Pure.pure a) := by
  intro memory refusal refused
  cases refused

theorem Steady.note (event : Event) : Steady (note event) := by
  intro memory refusal refused
  cases refused

theorem Steady.setRegions (chain : List Region) : Steady (setRegions chain) := by
  intro memory refusal refused
  cases refused

theorem Steady.faulty (fault : Fault) : Steady (α := α) (MonadExcept.throw (Failure.faulty fault)) := by
  intro memory refusal refused
  cases refused

theorem Steady.regions : Steady MemoryM.regions := by
  intro memory refusal refused
  cases refused

theorem Steady.ofFault (result : Except Fault α) : Steady (ofFault result) := by
  intro memory refusal refused
  cases result <;> cases refused

theorem Steady.bind (first : Steady step) (second : ∀ a, Steady (next a)) : Steady (step >>= next) := by
  intro memory refusal refused
  have never := first memory refusal
  rcases done : step memory with ⟨failure | a, after⟩
  · rw [bind_error done] at refused
    rw [done, Except.error.inj refused] at never
    exact never rfl
  · rw [bind_ok done] at refused
    exact second a after refusal refused

theorem Atomic.then_steady (first : Atomic step) (second : ∀ a, Steady (next a)) :
    Atomic (step >>= next) := by
  intro memory refusal refused
  have same := first memory refusal
  rcases done : step memory with ⟨failure | a, after⟩
  · rw [bind_error done] at refused ⊢
    rw [done, Except.error.inj refused] at same
    exact same rfl
  · rw [bind_ok done] at refused
    exact absurd refused (second a after refusal)

theorem Still.then_atomic (first : Still step) (second : ∀ a, Atomic (next a)) :
    Atomic (step >>= next) := by
  intro memory refusal refused
  have same := first memory
  rcases done : step memory with ⟨failure | a, after⟩
  · rw [bind_error done] at refused ⊢
    rw [done] at same
    exact same
  · rw [bind_ok done] at refused ⊢
    rw [done] at same
    cases same
    exact second a _ refusal refused

theorem write_steady (place : Place) (cells : List Cell) : Steady (write place cells) :=
  Steady.regions.bind fun _ => .setRegions _

theorem read_steady (place : Place) (count : Nat) : Steady (read place count) := by
  apply Steady.regions.bind
  intro chain
  cases chain[place.region]? with
  | none => exact .faulty _
  | some region => exact .pure _

theorem reclaim_steady (place : Place) (size : Nat) : Steady (reclaim place size) := by
  apply Steady.regions.bind
  intro chain
  cases chain[place.region]? with
  | none => exact .pure _
  | some region =>
      apply (Steady.ofFault _).bind
      rintro (_ | rewound)
      · exact .pure _
      · exact (Steady.setRegions _).bind fun _ => .note _

theorem grow_atomic (layout : Layout) : Atomic (grow layout) := by
  have start : Still (get : MemoryM Memory) := fun _ => rfl
  apply start.then_atomic
  intro memory
  cases layout.request? with
  | none => exact (Still.refuse _).atomic
  | some request =>
      cases made : Arena.newRegion memory.arena.system memory.arena.regions.length
          (memory.arena.regionSize request) with
      | error refusal =>
          simp only [made]
          exact (Still.refuse _).atomic
      | ok region =>
          simp only [made]
          apply (Still.ofFault _).then_atomic
          rintro (_ | ⟨offset, carved⟩)
          · exact (Still.refuse _).atomic
          · exact ((Steady.note _).bind fun _ => (Steady.setRegions _).bind fun _ => .pure _).atomic

theorem allocate_atomic (layout : Layout) : Atomic (allocate layout) := by
  apply Still.regions.then_atomic
  intro chain
  apply (Still.ofFault _).then_atomic
  rintro (_ | ⟨place, carved⟩)
  · exact grow_atomic layout
  · exact ((Steady.setRegions _).bind fun _ => .pure _).atomic

theorem reallocate_atomic (old : Option Place) (layout : Layout) (size : Nat) :
    Atomic (reallocate old layout size) := by
  unfold reallocate
  cases layout.resize? size with
  | none => exact (Still.refuse _).atomic
  | some resized =>
      apply (allocate_atomic resized).then_steady
      intro new
      cases old with
      | none => exact .pure _
      | some place =>
          have release : Steady (if 0 < layout.size then do
              reclaim place layout.size
              return new
            else return new) := by
            split
            · exact (reclaim_steady _ _).bind fun _ => .pure _
            · exact .pure _
          simp only
          split
          · exact (read_steady _ _).bind fun _ => (write_steady _ _).bind fun _ => release
          · exact release

end MemoryM

end ArenaLang
