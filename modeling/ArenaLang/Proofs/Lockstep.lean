import ArenaLang.Proofs.Runs

namespace ArenaLang

namespace MemoryM

variable {α β : Type} {step : MemoryM α} {next : α → MemoryM β}

/-- Whether the arena settles what a step answers and does, and which events it adds to the log,
none of them a diagnostic. -/
def Appends (step : MemoryM α) : Prop :=
  ∀ arena, ∃ result after, ∃ events : Log, (∀ event ∈ events, event.diagnostic? = none) ∧
    ∀ log : Log, step ⟨arena, log⟩ = (result, ⟨after, log ++ events⟩)

namespace Appends

theorem pure (a : α) : Appends (pure a) :=
  fun arena => ⟨.ok a, arena, #[], by simp, fun _ => rfl⟩

theorem throw (failure : Failure) : Appends (throw failure : MemoryM α) :=
  fun arena => ⟨.error failure, arena, #[], by simp, fun _ => rfl⟩

theorem bind (first : Appends step) (second : ∀ a, Appends (next a)) : Appends (step >>= next) := by
  intro arena
  obtain ⟨result, middle, events, silent, stepped⟩ := first arena
  cases result with
  | error failure => exact ⟨.error failure, middle, events, silent, fun log => bind_error (stepped log) next⟩
  | ok a =>
      obtain ⟨result, after, more, quiet, followed⟩ := second a middle
      refine ⟨result, after, events ++ more, ?_, fun log => ?_⟩
      · intro event member
        rcases Array.mem_append.mp member with before | behind
        · exact silent event before
        · exact quiet event behind
      · rw [bind_ok (stepped log), followed, Array.append_assoc]

theorem get_bind {next : Memory → MemoryM α} (blind : ∀ arena log, next ⟨arena, log⟩ = next ⟨arena, #[]⟩)
    (second : ∀ arena, Appends (next ⟨arena, #[]⟩)) : Appends (get >>= next) := by
  intro arena
  obtain ⟨result, after, events, silent, stepped⟩ := second arena arena
  refine ⟨result, after, events, silent, fun log => ?_⟩
  rw [← stepped log, ← blind arena log]
  rfl

theorem note {event : Event} (silent : event.diagnostic? = none) : Appends (note event) :=
  fun arena => ⟨.ok (), arena, #[event], by simpa using silent, fun _ => rfl⟩

theorem regions : Appends regions := get_bind (fun _ _ => rfl) fun _ => .pure _

theorem setRegions (chain : List Region) : Appends (setRegions chain) :=
  fun arena => ⟨.ok (), { arena with regions := chain }, #[], by simp, fun _ => rfl⟩

theorem ofFault (result : Except Fault α) : Appends (ofFault result) := by
  cases result with
  | error fault => exact .throw _
  | ok a => exact .pure a

end Appends

/-! ## Memory -/

theorem grow_appends (layout : Layout) : Appends (grow layout) := by
  apply Appends.get_bind fun _ _ => rfl
  intro arena
  cases layout.request? with
  | none => exact .throw _
  | some request =>
      simp only
      cases Arena.newRegion arena.system arena.regions.length (arena.regionSize request) with
      | error refusal => exact .throw _
      | ok region =>
          apply (Appends.ofFault _).bind
          intro carved
          cases carved with
          | none => exact .throw _
          | some carved => exact (Appends.note rfl).bind fun _ => (Appends.setRegions _).bind fun _ => .pure _

theorem allocate_appends (layout : Layout) : Appends (allocate layout) := by
  apply Appends.regions.bind
  intro chain
  apply (Appends.ofFault _).bind
  intro found
  cases found with
  | none => exact grow_appends layout
  | some found => exact (Appends.setRegions _).bind fun _ => .pure _

theorem write_appends (place : Place) (cells : List Cell) : Appends (write place cells) :=
  Appends.regions.bind fun _ => .setRegions _

theorem read_appends (place : Place) (count : Nat) : Appends (read place count) := by
  apply Appends.regions.bind
  intro chain
  cases chain[place.region]? with
  | none => exact .throw _
  | some region => exact .pure _

theorem reclaim_appends (place : Place) (size : Nat) : Appends (reclaim place size) := by
  apply Appends.regions.bind
  intro chain
  cases chain[place.region]? with
  | none => exact .pure _
  | some region =>
      apply (Appends.ofFault _).bind
      intro rewound
      cases rewound with
      | none => exact .pure _
      | some rewound => exact (Appends.setRegions _).bind fun _ => .note rfl

theorem reallocate_appends (old : Option Place) (layout : Layout) (size : Nat) :
    Appends (reallocate old layout size) := by
  unfold reallocate
  cases layout.resize? size with
  | none => exact .throw _
  | some resized =>
      apply (allocate_appends resized).bind
      intro new
      cases old with
      | none => exact .pure _
      | some place =>
          have release : Appends (if 0 < layout.size then do
              reclaim place layout.size
              return new
            else return new) := by
            split
            · exact (reclaim_appends _ _).bind fun _ => .pure _
            · exact .pure _
          simp only
          split
          · exact (read_appends _ _).bind fun _ => (write_appends _ _).bind fun _ => release
          · exact release

theorem found_appends (a? : Option α) : Appends (found a?) := by
  cases a? with
  | none => exact .throw _
  | some a => exact .pure a

end MemoryM

open MemoryM (Appends)

/-! ## Buffers and scopes -/

namespace Buffer

variable {α : Type} [Storable α]

theorem expect_appends (condition : Bool) (fault : Fault) : Appends (expect condition fault) := by
  unfold expect
  split
  · exact .pure _
  · exact .throw _

theorem ofRefusal_appends {β : Type} (result : Except Refusal β) : Appends (ofRefusal result) := by
  cases result with
  | error refusal => exact .throw _
  | ok b => exact .pure b

theorem grow_appends (capacity : Nat) (buffer : Buffer α) : Appends (buffer.grow capacity) := by
  apply (expect_appends _ _).bind
  intro _
  apply (ofRefusal_appends _).bind
  intro old
  apply (ofRefusal_appends _).bind
  intro new
  apply (MemoryM.reallocate_appends _ _ _).bind
  intro place
  exact (Appends.note rfl).bind fun _ => .pure _

theorem withCapacity_appends (capacity : Nat) : Appends (withCapacity capacity : MemoryM (Buffer α)) := by
  unfold withCapacity
  split
  · exact grow_appends capacity empty
  · exact .pure _

theorem fill_appends (elements : List α) (buffer : Buffer α) : Appends (buffer.fill elements) := by
  apply (expect_appends _ _).bind
  intro _
  cases buffer.place with
  | none => exact .pure _
  | some place => exact (MemoryM.write_appends _ _).bind fun _ => .pure _

theorem push_appends (a : α) (buffer : Buffer α) : Appends (buffer.push a) := by
  have grown : Appends buffer.growByOne :=
    (expect_appends _ _).bind fun _ => (ofRefusal_appends _).bind fun capacity => grow_appends capacity buffer
  unfold push
  split
  · exact grown.bind fun roomy => fill_appends [a] roomy
  · exact fill_appends [a] buffer

theorem toList_appends (buffer : Buffer α) : Appends buffer.toList := by
  have slice (place? : Option Place) (length : Nat) :
      Appends (MemoryM.readSlice (Storable.widthOf α) ⟨place?, length⟩) := by
    cases place? with
    | none => exact .pure _
    | some place => exact MemoryM.read_appends _ _
  exact (slice _ _).bind fun _ => MemoryM.found_appends _

end Buffer

theorem Scope.bindAll_appends (pairs : List (String × Value)) (scope : Scope) : Appends (scope.bindAll pairs) := by
  induction pairs generalizing scope with
  | nil => exact .pure _
  | cons pair rest ih =>
      have one : Appends (scope.bind pair.1 pair.2) := (Buffer.push_appends _ _).bind fun _ => .pure _
      exact one.bind ih

/-! ## Two machines -/

namespace RunM

variable {σ τ α β : Type} {cut : Stop → Prop} {related : Machine σ → Machine τ → Prop}

def Lockstep (cut : Stop → Prop) (related : Machine σ → Machine τ → Prop) (step : RunM σ α) (other : RunM τ α) : Prop :=
  ∀ machine another, related machine another → (∀ stop, cut stop → (step machine).1 ≠ .error stop) →
    (step machine).1 = (other another).1 ∧ related (step machine).2 (other another).2

namespace Lockstep

variable {step : RunM σ α} {other : RunM τ α} {next : α → RunM σ β} {follow : α → RunM τ β}

theorem refl (step : RunM σ α) : Lockstep cut Eq step step := by
  rintro machine _ rfl _
  exact ⟨rfl, rfl⟩

theorem pure (a : α) : Lockstep cut related (pure a) (pure a) := fun _ _ alike _ => ⟨rfl, alike⟩

theorem throw (stop : Stop) : Lockstep cut related (throw stop : RunM σ α) (throw stop) :=
  fun _ _ alike _ => ⟨rfl, alike⟩

/-- What is known of the answer of the first step may be used of the second. -/
theorem bind_given {given : α → Prop} (first : Lockstep cut related step other)
    (answers : ∀ machine a after, step machine = (.ok a, after) → given a)
    (second : ∀ a, given a → Lockstep cut related (next a) (follow a)) :
    Lockstep cut related (step >>= next) (other >>= follow) := by
  intro machine another alike whole
  have together := first machine another alike
  rw [bind_apply] at whole
  rw [bind_apply, bind_apply]
  rcases stepped : step machine with ⟨stop | a, after⟩
  · simp only [stepped] at together whole
    obtain ⟨same, still⟩ := together (by simpa using whole)
    rcases followed : other another with ⟨_ | _, behind⟩
    · simp only [followed] at same still
      cases same
      exact ⟨rfl, still⟩
    · simp [followed] at same
  · simp only [stepped] at together whole
    obtain ⟨same, still⟩ := together (by simp)
    rcases followed : other another with ⟨_ | b, behind⟩
    · simp [followed] at same
    · simp only [followed] at same still
      cases same
      exact second a (answers machine a after stepped) after behind still whole

theorem bind (first : Lockstep cut related step other) (second : ∀ a, Lockstep cut related (next a) (follow a)) :
    Lockstep cut related (step >>= next) (other >>= follow) :=
  first.bind_given (fun _ _ _ _ => trivial) fun a _ => second a

end Lockstep

end RunM

open RunM (Lockstep)

/-- Whether a relation of machines lasts through whatever evaluation does to both of them. -/
structure Machine.Lasts {σ τ : Type} [Writer σ] [Writer τ] (natives : Registry) (cut : Stop → Prop)
    (related : Machine σ → Machine τ → Prop) : Prop where
  memory {α : Type} {step : MemoryM α} (appends : Appends step) :
    Lockstep cut related (RunM.onMemory step) (RunM.onMemory step)
  report (d : Diagnostic) : Lockstep cut related (RunM.report d) (RunM.report d)
  perform {native : Native} (registered : native ∈ natives.entries) (args : Args) :
    Lockstep cut related (RunM.perform (native.handler args)) (RunM.perform (native.handler args))

theorem Machine.Lasts.eq {σ : Type} [Writer σ] (natives : Registry) (cut : Stop → Prop) :
    Machine.Lasts natives cut (Eq : Machine σ → Machine σ → Prop) :=
  ⟨fun _ => .refl _, fun _ => .refl _, fun _ _ => .refl _⟩

/-! ## Evaluation -/

namespace Code

variable {σ τ : Type} {code : Code}

theorem resolve_native {name : String} {handler : Handler} {machine after : Machine σ}
    (resolved : code.resolve name machine = (.ok (some (.native handler)), after)) :
    ∃ native ∈ code.natives.entries, handler = native.handler := by
  unfold resolve at resolved
  cases found : code.natives.lookup? name with
  | some native =>
      rw [found] at resolved
      cases resolved
      exact ⟨native, List.mem_of_find?_eq_some found, rfl⟩
  | none =>
      simp only [found, RunM.bind_apply] at resolved
      generalize RunM.onMemory (code.lookup? name) machine = looked at resolved
      rcases looked with ⟨stop | _ | function, behind⟩ <;> cases resolved

variable [Writer σ] [Writer τ] {cut : Stop → Prop} {related : Machine σ → Machine τ → Prop} {enter : Entry σ} {entry : Entry τ}

def Entry.Lockstep (cut : Stop → Prop) (related : Machine σ → Machine τ → Prop) (enter : Entry σ) (entry : Entry τ) :
    Prop :=
  ∀ function values, RunM.Lockstep cut related (enter function values) (entry function values)

section

variable (lasts : Machine.Lasts code.natives cut related)

include lasts

theorem resolve_lockstep (name : String) : Lockstep cut related (code.resolve name) (code.resolve name) := by
  unfold resolve
  cases code.natives.lookup? name with
  | some native => exact .pure _
  | none =>
      have lookup : Appends (code.lookup? name) := (Buffer.toList_appends _).bind fun _ => .pure _
      exact (lasts.memory lookup).bind fun _ => .pure _

theorem recover_lockstep (d : Diagnostic) : Lockstep cut related (recover d) (recover d) :=
  (lasts.report d).bind fun _ => .pure _

theorem argumentBuffer_lockstep (count : Nat) : Lockstep cut related (argumentBuffer count) (argumentBuffer count) :=
  lasts.memory (Buffer.withCapacity_appends count)

theorem call_lockstep (entering : enter.Lockstep cut related entry) (name : String) (count : Nat)
    {arguments : RunM σ (Buffer Value)} {others : RunM τ (Buffer Value)} (same : Lockstep cut related arguments others) :
    Lockstep cut related (code.call enter name count arguments) (code.call entry name count others) := by
  have reading (buffer : Buffer Value) :
      Lockstep cut related (RunM.onMemory buffer.toList) (RunM.onMemory buffer.toList) :=
    lasts.memory (Buffer.toList_appends buffer)
  have known (machine : Machine σ) (callee? : Option Callee) (after : Machine σ)
      (resolved : code.resolve name machine = (.ok callee?, after)) (handler : Handler)
      (found : callee? = some (.native handler)) : ∃ native ∈ code.natives.entries, handler = native.handler :=
    resolve_native (found ▸ resolved)
  apply (resolve_lockstep lasts name).bind_given known
  intro callee? registered
  cases callee? with
  | none => exact .pure _
  | some callee =>
      apply (lasts.memory (Appends.note rfl)).bind
      intro _
      cases callee with
      | native handler =>
          obtain ⟨native, member, rfl⟩ := registered handler rfl
          apply same.bind
          intro buffer
          apply (reading buffer).bind
          intro values
          exact (lasts.perform member _).bind fun _ => .pure _
      | declared function =>
          simp only
          split
          · exact same.bind fun buffer => (reading buffer).bind fun values => entering function values
          · exact .pure _

mutual

theorem evaluate_lockstep (entering : enter.Lockstep cut related entry) (scope : Scope) (e : Expr) :
    Lockstep cut related (code.evaluate enter scope e) (code.evaluate entry scope e) := by
  cases e with
  | number n => exact .pure _
  | text s => exact .pure _
  | «variable» name =>
      unfold evaluate
      have lookup : Appends (scope.lookup? name) := (Buffer.toList_appends _).bind fun _ => .pure _
      apply (lasts.memory lookup).bind
      intro value?
      cases value? with
      | none => exact recover_lockstep lasts _
      | some value => exact .pure _
  | call function arguments =>
      unfold evaluate
      have evaluated := (argumentBuffer_lockstep lasts arguments.length).bind fun buffer =>
        evaluateAll_lockstep entering scope arguments buffer
      apply (call_lockstep lasts entering function _ evaluated).bind
      intro outcome
      cases outcome with
      | ok value => exact .pure _
      | error error => exact recover_lockstep lasts _

theorem evaluateAll_lockstep (entering : enter.Lockstep cut related entry) (scope : Scope) (expressions : List Expr)
    (buffer : Buffer Value) :
    Lockstep cut related (code.evaluateAll enter scope expressions buffer)
      (code.evaluateAll entry scope expressions buffer) := by
  cases expressions with
  | nil => exact .pure _
  | cons e rest =>
      unfold evaluateAll
      apply (evaluate_lockstep entering scope e).bind
      intro value
      exact (lasts.memory (Buffer.push_appends _ _)).bind fun next => evaluateAll_lockstep entering scope rest next

end

theorem execute_lockstep (entering : enter.Lockstep cut related entry) (scope : Scope) (statement : Stmt) :
    Lockstep cut related (code.execute enter scope statement) (code.execute entry scope statement) := by
  cases statement with
  | ret result =>
      cases result with
      | none => exact .pure _
      | some e => exact (evaluate_lockstep lasts entering scope e).bind fun _ => .pure _
  | call function arguments =>
      unfold execute
      have evaluated := (argumentBuffer_lockstep lasts arguments.length).bind fun buffer =>
        evaluateAll_lockstep lasts entering scope arguments buffer
      apply (call_lockstep lasts entering function _ evaluated).bind
      intro outcome
      cases outcome <;> exact .pure _
  | declare name params body => exact .pure _

theorem executeAll_lockstep (entering : enter.Lockstep cut related entry) (scope : Scope) (statements : List Stmt) :
    Lockstep cut related (code.executeAll enter scope statements) (code.executeAll entry scope statements) := by
  induction statements generalizing scope with
  | nil => exact .pure _
  | cons statement rest ih =>
      apply (execute_lockstep lasts entering scope statement).bind
      intro outcome
      cases outcome with
      | error error => exact .pure _
      | ok next =>
          simp only
          split
          · exact .pure _
          · exact ih next

theorem activate_lockstep (entering : enter.Lockstep cut related entry) :
    (code.activate enter).Lockstep cut related (code.activate entry) := by
  intro function values
  apply (lasts.memory (Scope.bindAll_appends _ _)).bind
  intro scope
  apply (executeAll_lockstep lasts entering scope function.body).bind
  intro outcome
  cases outcome <;> exact .pure _

theorem enter_lockstep (depth : Nat) : (code.enter depth).Lockstep cut related (code.enter depth) := by
  induction depth with
  | zero => exact fun _ _ => .throw _
  | succ depth ih => exact activate_lockstep lasts ih

theorem callEntryPoint_lockstep (depth : Nat) :
    Lockstep cut related (code.callEntryPoint (code.enter depth)) (code.callEntryPoint (code.enter depth)) :=
  call_lockstep lasts (enter_lockstep lasts depth) _ _ (argumentBuffer_lockstep lasts 0)

end

end Code

end ArenaLang
