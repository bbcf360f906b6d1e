import ArenaLang.Proofs.Building
import ArenaLang.Proofs.Recording
import ArenaLang.Proofs.Scenes

/-!
# Staging

A builder or an interpreter makes buffers of its own, and between two actions on one of them it may
make others, as deep as calls are nested. All of it can be played in a scene one single step at a
time, with each buffer watched from the moment it is made. A judgement says so of a step, given the
buffer it may act on, and composes as steps do.
-/

namespace ArenaLang

open MemoryM

theorem bind_state {s ε α β : Type} (step : ExceptT ε (StateM s) α) (next : α → ExceptT ε (StateM s) β)
    (state : s) :
    (step >>= next) state =
      match step state with
      | (.ok a, after) => next a after
      | (.error failure, after) => (.error failure, after) := by
  simp only [bind, ExceptT.bind, ExceptT.mk, StateT.bind]
  rcases step state with ⟨_ | _, _⟩ <;> rfl

/-- Whether a step on states that have a memory can be played in a scene. The buffers in front are left
alone; of those behind them it is known what they were, and what they are if the step succeeds. -/
def Plays {s ε α : Type} (memory : s → Memory) (has : List Watched → Prop) (step : ExceptT ε (StateM s) α)
    (gives : α → List Watched → Prop) : Prop :=
  ∀ state front watched, has watched → ∃ next,
    Scene.Reaches Memory.Quiet ⟨memory state, front ++ watched⟩ ⟨memory (step state).2, front ++ next⟩ ∧
      ∀ a, (step state).1 = .ok a → gives a next

abbrev Staged {s ε α : Type} (memory : s → Memory) (step : ExceptT ε (StateM s) α) : Prop :=
  Plays memory (· = []) step fun _ _ => True

def Heads {γ : Type} [Storable γ] (buffer : Buffer γ) (watched : List Watched) : Prop :=
  ∃ growths behind, watched = ⟨buffer, growths⟩ :: behind

theorem Heads.append {γ : Type} [Storable γ] {buffer : Buffer γ} (watched more : List Watched)
    (heads : Heads buffer watched) : Heads buffer (watched ++ more) := by
  obtain ⟨growths, behind, rfl⟩ := heads
  exact ⟨growths, behind ++ more, rfl⟩

section

variable {s ε α β γ : Type} {memory : s → Memory} {has : List Watched → Prop}
  {step : ExceptT ε (StateM s) α} {next : α → ExceptT ε (StateM s) β}
  {gives more : α → List Watched → Prop} {last : β → List Watched → Prop}

theorem Plays.mono (plays : Plays memory has step gives)
    (weaker : ∀ a watched, gives a watched → more a watched) : Plays memory has step more := by
  intro state front watched held
  obtain ⟨after, reaches, given⟩ := plays state front watched held
  exact ⟨after, reaches, fun a done => weaker a after (given a done)⟩

theorem Plays.pure {a : α} (given : ∀ watched, has watched → gives a watched) :
    Plays memory has (Pure.pure a : ExceptT ε (StateM s) α) gives := by
  intro state front watched held
  refine ⟨watched, .refl, ?_⟩
  rintro _ ⟨⟩
  exact given watched held

theorem Plays.bind (first : Plays memory has step gives) (second : ∀ a, Plays memory (gives a) (next a) last) :
    Plays memory has (step >>= next) last := by
  intro state front watched held
  obtain ⟨middle, reaches, given⟩ := first state front watched held
  rw [bind_state]
  rcases done : step state with ⟨failure | a, after⟩
  · rw [done] at reaches
    exact ⟨middle, reaches, by simp⟩
  · rw [done] at reaches given
    obtain ⟨final, further, known⟩ := second a after front middle (given a rfl)
    exact ⟨final, reaches.trans further, known⟩

theorem Staged.of_plays (plays : Plays memory (· = []) step gives) : Staged memory step :=
  plays.mono fun _ _ _ => trivial

theorem Staged.beside (staged : Staged memory step)
    (grows : ∀ watched more, has watched → has (watched ++ more)) :
    Plays memory has step fun _ => has := by
  intro state front watched held
  obtain ⟨made, reaches, _⟩ := staged state (front ++ watched) [] rfl
  rw [List.append_nil, List.append_assoc] at reaches
  exact ⟨watched ++ made, reaches, fun _ _ => grows watched made held⟩

theorem Staged.after (staged : Staged memory step) : Plays memory has step fun _ _ => True := by
  have anywhere : Plays memory (fun _ => True) step fun _ _ => True := staged.beside fun _ _ => id
  exact fun state front watched _ => anywhere state front watched trivial

theorem Staged.bind (first : Staged memory step) (second : ∀ a, Staged memory (next a)) :
    Staged memory (step >>= next) := Plays.bind first fun a => (second a).after

theorem Staged.still (still : ∀ state, memory (step state).2 = memory state) : Staged memory step := by
  intro state front watched _
  rw [still state]
  exact ⟨watched, .refl, fun _ _ => trivial⟩

theorem Staged.pure (a : α) : Staged memory (Pure.pure a : ExceptT ε (StateM s) α) := .still fun _ => rfl

theorem Staged.throw (e : ε) : Staged memory (throw e : ExceptT ε (StateM s) α) := .still fun _ => rfl

theorem Plays.created [Storable γ] (plays : Plays memory (Heads (Buffer.empty : Buffer γ)) step gives) :
    Staged memory step := by
  rintro state front _ rfl
  obtain ⟨after, reaches, _⟩ := plays state front [⟨Buffer.empty, []⟩] ⟨[], [], rfl⟩
  rw [List.append_nil]
  exact ⟨after, reaches.head .created, fun _ _ => trivial⟩

end

theorem Plays.onMemory {σ α : Type} {has : List Watched → Prop} {step : MemoryM α}
    {gives : α → List Watched → Prop} (plays : Plays id has step gives) : Plays Machine.memory has (RunM.onMemory (σ := σ) step) gives := by
  intro machine front watched held
  obtain ⟨next, reaches, given⟩ := plays machine.memory front watched held
  rw [RunM.onMemory]
  rcases done : step machine.memory with ⟨failure | a, after⟩
  · rw [done] at reaches
    exact ⟨next, reaches, by simp⟩
  · rw [done] at reaches given
    refine ⟨next, reaches, fun b same => ?_⟩
    cases same
    exact given a rfl

/-! ## Memory -/

theorem Staged.of_blocks {α : Type} {step : MemoryM α}
    (kept : ∀ {invariant : Memory → Prop}, Memory.BlockInvariant invariant → Preserves invariant step) :
    Staged id step := by
  rintro memory front _ rfl
  exact ⟨[], kept (Scene.Reaches.blocks ⟨memory, front ++ []⟩ (front ++ [])) memory .refl, fun _ _ => trivial⟩

theorem Staged.note {event : Event} (other : event.ofRegions = false) (quiet : event.isGrowth = false) :
    Staged id (MemoryM.note event) := by
  rintro memory front _ rfl
  exact ⟨[], .single (.apart (.noted other quiet)), fun _ _ => trivial⟩

namespace Buffer

variable {γ : Type} [Storable γ]

theorem withCapacity_plays (capacity : Nat) :
    Plays id (· = []) (withCapacity capacity : MemoryM (Buffer γ)) fun buffer => Heads buffer := by
  rintro memory front _ rfl
  rw [List.append_nil]
  rcases done : (withCapacity capacity : MemoryM (Buffer γ)) memory with ⟨failure | buffer, after⟩
  · refine ⟨[], ?_, by simp⟩
    rw [List.append_nil]
    exact .single (.unsized done)
  · refine ⟨[⟨buffer, memory.growthsUntil after⟩], .single (.sized done), ?_⟩
    rintro _ ⟨⟩
    exact ⟨_, [], rfl⟩

theorem action_plays (action : Action γ) (buffer : Buffer γ) :
    Plays id (Heads buffer) (action.run buffer) fun next => Heads next := by
  rintro memory front _ ⟨growths, behind, rfl⟩
  let scene : Scene := ⟨memory, front ++ ⟨buffer, growths⟩ :: behind⟩
  have held : scene.watched[front.length]? = some ⟨buffer, growths⟩ := by simp [scene]
  have set (watched : Watched) : scene.watched.set front.length watched = front ++ watched :: behind := by
    simp [scene]
  rcases done : action.run buffer memory with ⟨failure | next, after⟩
  · have step : scene.Step Memory.Quiet _ := .failed held done
    rw [set] at step
    exact ⟨_, .single step, by simp⟩
  · have step : scene.Step Memory.Quiet _ := .acted held done
    rw [set] at step
    refine ⟨_, .single step, ?_⟩
    rintro _ ⟨⟩
    exact ⟨_, behind, rfl⟩

theorem push_plays (a : γ) (buffer : Buffer γ) : Plays id (Heads buffer) (buffer.push a) fun next => Heads next :=
  action_plays (.push a) buffer

theorem pushAll_plays (elements : List γ) (buffer : Buffer γ) :
    Plays id (Heads buffer) (buffer.pushAll elements) fun next => Heads next := by
  induction elements generalizing buffer with
  | nil => exact .pure fun _ => id
  | cons a rest ih => exact (push_plays a buffer).bind ih

end Buffer

theorem Scope.bindAll_plays (pairs : List (String × Value)) (scope : Scope) :
    Plays id (Heads scope.bindings) (scope.bindAll pairs) fun next => Heads next.bindings := by
  induction pairs generalizing scope with
  | nil => exact .pure fun _ => id
  | cons pair rest ih =>
      have one : Plays id (Heads scope.bindings) (scope.bind pair.1 pair.2) fun next => Heads next.bindings := by
        apply (Buffer.push_plays _ _).bind
        intro bindings
        exact .pure fun _ => id
      exact one.bind ih

/-! ## Builders -/

theorem storeText_staged (s : String) : Staged id (storeText s) :=
  .of_blocks fun steps => steps.storeAll (utf8 s)

theorem storeAll_staged {α : Type} [Storable α] (elements : List α) : Staged id (MemoryM.storeAll elements) :=
  .of_blocks fun steps => steps.storeAll elements

theorem store_staged {α : Type} [Storable α] (a : α) : Staged id (MemoryM.store a) :=
  .of_blocks fun steps => steps.store a

theorem storeNames_plays (names : List String) (buffer : Buffer Slice) :
    Plays id (Heads buffer) (storeNames names buffer) fun next => Heads next := by
  induction names generalizing buffer with
  | nil => exact .pure fun _ => id
  | cons name rest ih =>
      apply ((storeText_staged name).beside Heads.append).bind
      intro bytes
      exact (Buffer.push_plays bytes buffer).bind ih

namespace Builder

theorem text_staged (s : String) : Staged id (text s) := (storeText_staged s).bind fun _ => .pure _

theorem ident_staged (s : String) : Staged id (ident s) := (storeText_staged s).bind fun _ => .pure _

theorem call_staged {β : Type} (make : Slice → Slice → β) (function : String) (arguments : List ExprNode) :
    Staged id (call make function arguments) :=
  (storeText_staged function).bind fun _ => (storeAll_staged arguments).bind fun _ => .pure _

theorem declaration_staged (name : String) (params : List String) (body : List StmtNode) :
    Staged id (declaration name params body) := by
  apply (Buffer.withCapacity_plays params.length).bind
  intro buffer
  apply (storeNames_plays params buffer).bind
  intro names
  apply Staged.after
  apply (storeText_staged name).bind
  intro bytes
  exact (storeAll_staged body).bind fun _ => (store_staged _).bind fun _ => .pure _

theorem program_staged (statements : List StmtNode) (depth : Nat) : Staged id (program statements depth) :=
  (storeAll_staged statements).bind fun _ => .pure _

end Builder

theorem Construction.run_staged (construction : Construction) : Staged id construction.run := by
  cases construction with
  | number n => exact .pure _
  | text s => exact (Builder.text_staged s).bind fun _ => .pure _
  | ident s => exact (Builder.ident_staged s).bind fun _ => .pure _
  | call function arguments => exact (Builder.call_staged _ function _).bind fun _ => .pure _
  | ret result => exact .pure _
  | callStatement function arguments => exact (Builder.call_staged _ function _).bind fun _ => .pure _
  | declaration name params body => exact (Builder.declaration_staged name params _).bind fun _ => .pure _
  | program statements => exact (Builder.program_staged _ _).bind fun _ => .pure _

mutual

theorem Expr.store_staged (e : Expr) : Staged id e.store := by
  cases e with
  | number n => exact .pure _
  | text s => exact Builder.text_staged s
  | «variable» name => exact Builder.ident_staged name
  | call function arguments =>
      rw [Expr.store]
      exact (Expr.storeAll_staged arguments).bind fun nodes => Builder.call_staged ExprNode.call function nodes

theorem Expr.storeAll_staged (expressions : List Expr) : Staged id (Expr.storeAll expressions) := by
  cases expressions with
  | nil => exact .pure _
  | cons e rest =>
      rw [Expr.storeAll]
      exact (Expr.store_staged e).bind fun _ => (Expr.storeAll_staged rest).bind fun _ => .pure _

end

mutual

theorem Stmt.store_staged (statement : Stmt) : Staged id statement.store := by
  cases statement with
  | declare name params body =>
      rw [Stmt.store]
      exact (Stmt.storeAll_staged body).bind fun nodes => Builder.declaration_staged name params nodes
  | ret result =>
      cases result with
      | none => exact .pure _
      | some e => exact (Expr.store_staged e).bind fun _ => .pure _
  | call function arguments =>
      rw [Stmt.store]
      exact (Expr.storeAll_staged arguments).bind fun nodes => Builder.call_staged StmtNode.call function nodes

theorem Stmt.storeAll_staged (statements : List Stmt) : Staged id (Stmt.storeAll statements) := by
  cases statements with
  | nil => exact .pure _
  | cons statement rest =>
      rw [Stmt.storeAll]
      exact (Stmt.store_staged statement).bind fun _ => (Stmt.storeAll_staged rest).bind fun _ => .pure _

end

theorem Program.store_staged (program : Program) : Staged id program.store :=
  (Stmt.storeAll_staged program).bind fun _ => (storeAll_staged _).bind fun _ => .pure _

/-! ## Evaluation -/

section

variable {σ : Type}

theorem RunM.report_staged (d : Diagnostic) : Staged Machine.memory (RunM.report (σ := σ) d) := by
  rintro machine front _ rfl
  exact ⟨[], .single (.apart (@Memory.Quiet.noted machine.memory (.reported d) rfl rfl)), fun _ _ => trivial⟩

theorem RunM.reportAll_staged (diagnostics : List Diagnostic) :
    Staged Machine.memory (RunM.reportAll (σ := σ) diagnostics) := by
  induction diagnostics with
  | nil => exact .pure _
  | cons d rest ih => exact (RunM.report_staged d).bind fun _ => ih

theorem RunM.note_staged {event : Event} (other : event.ofRegions = false) (quiet : event.isGrowth = false) :
    Staged Machine.memory (RunM.note (σ := σ) event) := (Staged.note other quiet).onMemory

theorem RunM.read_staged {α : Type} {step : MemoryM α} (still : Still step) :
    Staged Machine.memory (RunM.onMemory (σ := σ) step) := by
  have quiet : Staged id step := .still still
  exact quiet.onMemory

theorem RunM.perform_staged [Writer σ] (script : Script) :
    Staged Machine.memory (RunM.perform (σ := σ) script) := by
  intro machine
  let performance := script.run machine.output
  exact ((RunM.reportAll_staged performance.reported).bind fun _ => .pure performance.value)
    { machine with output := performance.output }

end

namespace Code

variable {σ : Type} {code : Code} {enter : Entry σ}

theorem resolve_staged (name : String) : Staged Machine.memory (code.resolve (σ := σ) name) := by
  unfold resolve
  cases code.natives.lookup? name with
  | some native => exact .pure _
  | none =>
      have lookup : Still (code.lookup? name) := (Buffer.toList_still _).bind fun _ => .pure _
      exact (RunM.read_staged lookup).bind fun _ => .pure _

theorem recover_staged (d : Diagnostic) : Staged Machine.memory (recover (σ := σ) d) :=
  (RunM.report_staged d).bind fun _ => .pure _

variable [Writer σ]

def Entry.Stages (enter : Entry σ) : Prop := ∀ function values, Staged Machine.memory (enter function values)

theorem call_staged (entering : enter.Stages) (name : String) (count : Nat) {arguments : RunM σ (Buffer Value)}
    (given : Staged Machine.memory arguments) :
    Staged Machine.memory (code.call enter name count arguments) := by
  apply (resolve_staged name).bind
  intro callee?
  cases callee? with
  | none => exact .pure _
  | some callee =>
      apply (RunM.note_staged rfl rfl).bind
      intro _
      cases callee with
      | native handler =>
          apply given.bind
          intro buffer
          apply (RunM.read_staged (Buffer.toList_still buffer)).bind
          intro values
          exact (RunM.perform_staged _).bind fun _ => .pure _
      | declared function =>
          simp only
          split
          · apply given.bind
            intro buffer
            exact (RunM.read_staged (Buffer.toList_still buffer)).bind fun values => entering function values
          · exact .pure _

theorem arguments_staged {scope : Scope} {arguments : List Expr}
    (evaluated : ∀ buffer, Plays Machine.memory (Heads buffer) (code.evaluateAll enter scope arguments buffer)
      fun next => Heads next) :
    Staged Machine.memory (do code.evaluateAll enter scope arguments (← argumentBuffer arguments.length)) :=
  .of_plays ((Buffer.withCapacity_plays arguments.length).onMemory.bind evaluated)

mutual

theorem evaluate_staged (entering : enter.Stages) (scope : Scope) (e : Expr) :
    Staged Machine.memory (code.evaluate enter scope e) := by
  cases e with
  | number n => exact .pure _
  | text s => exact .pure _
  | «variable» name =>
      unfold evaluate
      have lookup : Still (scope.lookup? name) := (Buffer.toList_still _).bind fun _ => .pure _
      apply (RunM.read_staged lookup).bind
      intro value?
      cases value? with
      | none => exact recover_staged _
      | some value => exact .pure _
  | call function arguments =>
      unfold evaluate
      have evaluated := arguments_staged (evaluateAll_plays entering scope arguments)
      apply (call_staged entering function _ evaluated).bind
      intro outcome
      cases outcome with
      | ok value => exact .pure _
      | error error => exact recover_staged _

/-- What is evaluated between two appends is played behind the buffer of arguments. -/
theorem evaluateAll_plays (entering : enter.Stages) (scope : Scope) (expressions : List Expr)
    (buffer : Buffer Value) :
    Plays Machine.memory (Heads buffer) (code.evaluateAll enter scope expressions buffer) fun next => Heads next := by
  cases expressions with
  | nil => exact .pure fun _ => id
  | cons e rest =>
      unfold evaluateAll
      apply ((evaluate_staged entering scope e).beside Heads.append).bind
      intro value
      -- The buffers that evaluating `e` made come behind this one, which is the first again for the push.
      exact (Buffer.push_plays value buffer).onMemory.bind fun next => evaluateAll_plays entering scope rest next

end

theorem execute_staged (entering : enter.Stages) (scope : Scope) (statement : Stmt) :
    Staged Machine.memory (code.execute enter scope statement) := by
  cases statement with
  | ret result =>
      cases result with
      | none => exact .pure _
      | some e => exact (evaluate_staged entering scope e).bind fun _ => .pure _
  | call function arguments =>
      unfold execute
      refine (call_staged entering function _ (arguments_staged ?_)).bind fun outcome => ?_
      · exact evaluateAll_plays entering scope arguments
      · cases outcome <;> exact .pure _
  | declare name params body => exact .pure _

theorem executeAll_staged (entering : enter.Stages) (scope : Scope) (statements : List Stmt) :
    Staged Machine.memory (code.executeAll enter scope statements) := by
  induction statements generalizing scope with
  | nil => exact .pure _
  | cons statement rest ih =>
      apply (execute_staged entering scope statement).bind
      intro outcome
      cases outcome with
      | error error => exact .pure _
      | ok next =>
          simp only
          split
          · exact .pure _
          · exact ih next

theorem activate_staged (entering : enter.Stages) : (code.activate enter).Stages := by
  intro function values
  have plays : Plays Machine.memory (Heads Scope.empty.bindings) (code.activate enter function values)
      fun _ _ => True := by
    apply (Scope.bindAll_plays (function.params.zip values) .empty).onMemory.bind
    intro scope
    apply Staged.after
    apply (executeAll_staged entering scope function.body).bind
    intro outcome
    cases outcome <;> exact .pure _
  exact .created plays

theorem enter_staged (depth : Nat) : (code.enter (σ := σ) depth).Stages := by
  induction depth with
  | zero => exact fun _ _ => .throw _
  | succ depth ih => exact activate_staged ih

theorem runWithin_staged (depth : Nat) : Staged Machine.memory (code.runWithin (σ := σ) depth) := by
  apply (call_staged (enter_staged depth) entryPoint 0 (.of_plays (Buffer.withCapacity_plays 0).onMemory)).bind
  intro outcome
  cases outcome with
  | error error => exact .pure _
  | ok value =>
      simp only
      split
      · exact .pure _
      · exact .pure _

end Code

namespace Interpreter

variable {σ : Type}

theorem record_staged (program : Program) (natives : Registry) : Staged id (record program natives) := by
  have written : Plays id (Heads (Buffer.empty : Buffer Declaration)) (record program natives) fun _ _ => True := by
    apply (Buffer.pushAll_plays program.declarations .empty).bind
    intro functions
    exact ((Staged.note rfl rfl).bind fun _ => .pure _).after
  exact .created written

variable [Writer σ]

theorem flush_staged : Staged Machine.memory (flush (σ := σ)) := by
  rintro machine front _ rfl
  rw [flush_apply, Machine.flushed]
  rcases Writer.flush machine.output with ⟨reason | _, output⟩
  · exact RunM.report_staged (.warning ("failed to flush output: " ++ reason)) { machine with output } front [] rfl
  · exact ⟨[], .refl, fun _ _ => trivial⟩

theorem runWithin_staged (depth : Nat) (code : Code) : Staged Machine.memory (runWithin (σ := σ) depth code) := by
  apply (code.runWithin_staged depth).bind
  intro result
  apply flush_staged.bind
  intro _
  cases result with
  | error error => exact .pure _
  | ok exitCode => exact (RunM.note_staged rfl rfl).bind fun _ => .pure _

end Interpreter

end ArenaLang
