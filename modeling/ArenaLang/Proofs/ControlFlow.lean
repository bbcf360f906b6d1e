import ArenaLang.Proofs.Following

namespace ArenaLang

/-! ## Blanks -/

mutual

def Expr.blank : Expr → Expr
  | .number _ | .text _ => .number .zero
  | .variable name => .variable name
  | .call function arguments => .call function (Expr.blankAll arguments)

def Expr.blankAll : List Expr → List Expr
  | [] => []
  | e :: rest => e.blank :: Expr.blankAll rest

end

mutual

def Stmt.blank : Stmt → Stmt
  | .declare name params body => .declare name params (Stmt.blankAll body)
  | .ret none => .ret none
  | .ret (some e) => .ret (some e.blank)
  | .call function arguments => .call function (Expr.blankAll arguments)

def Stmt.blankAll : List Stmt → List Stmt
  | [] => []
  | statement :: rest => statement.blank :: Stmt.blankAll rest

end

def Program.blank (program : Program) : Program := Stmt.blankAll program

def Declaration.blank (function : Declaration) : Declaration :=
  { function with body := Stmt.blankAll function.body }

def Native.blank (native : Native) : Native := ⟨native.name, fun _ => .done .nothing⟩

def Registry.blank (natives : Registry) : Registry := ⟨natives.entries.map Native.blank⟩

def Callee.blank : Callee → Callee
  | .native _ => .native fun _ => .done .nothing
  | .declared function => .declared function.blank

theorem Expr.length_blankAll (expressions : List Expr) : (Expr.blankAll expressions).length = expressions.length := by
  induction expressions with
  | nil => rfl
  | cons e rest ih => rw [Expr.blankAll, List.length_cons, List.length_cons, ih]

theorem Program.declarations_blank (program : Program) :
    program.blank.declarations = program.declarations.map Declaration.blank := by
  induction program with
  | nil => rfl
  | cons statement rest ih =>
      have front : statement.blank.declared? = statement.declared?.map Declaration.blank := by
        cases statement with
        | declare name params body => rfl
        | ret result => cases result <;> rfl
        | call function arguments => rfl
      have behind : (Stmt.blankAll rest).filterMap Stmt.declared? =
          (rest.filterMap Stmt.declared?).map Declaration.blank := ih
      show (statement.blank :: Stmt.blankAll rest).filterMap Stmt.declared? =
        ((statement :: rest).filterMap Stmt.declared?).map Declaration.blank
      rw [List.filterMap_cons, List.filterMap_cons, front, behind]
      cases statement.declared? <;> rfl

theorem Registry.blank_eq_of_names {natives others : Registry} (same : natives.names = others.names) :
    natives.blank = others.blank := by
  have blanks (registry : Registry) :
      registry.blank = ⟨registry.names.map fun name => ⟨name, fun _ => .done .nothing⟩⟩ := by
    rw [blank, names, List.map_map]
    rfl
  rw [blanks, blanks, same]

namespace Definitions

def blank (definitions : Definitions) : Definitions :=
  ⟨definitions.functions.map Declaration.blank, definitions.natives.blank⟩

variable {definitions : Definitions} {way other : Way}

theorem resolve_blank (name : String) (definitions : Definitions) :
    definitions.blank.resolve name = (definitions.resolve name).map Callee.blank := by
  have native : definitions.blank.natives.lookup? name = (definitions.natives.lookup? name).map Native.blank :=
    List.find?_map
  have declared : definitions.blank.functions.find? (·.name == name) =
      (definitions.functions.find? (·.name == name)).map Declaration.blank := List.find?_map
  unfold resolve
  rw [native, declared]
  cases definitions.natives.lookup? name with
  | some native => rfl
  | none => cases definitions.functions.find? (·.name == name) <;> rfl

/-! ## Courses of blanks -/

theorem courseOfCall_blank (same : ∀ function, other (Declaration.blank function) = way function) (name : String)
    (count : Nat) (arguments : Course Unit) :
    definitions.blank.courseOfCall other name count arguments = definitions.courseOfCall way name count arguments := by
  unfold courseOfCall
  rw [resolve_blank]
  cases definitions.resolve name with
  | none => rfl
  | some callee =>
      cases callee with
      | native handler => rfl
      | declared function =>
          simp only [Option.map_some, Callee.blank, same]
          rfl

mutual

theorem courseOf_blank (same : ∀ function, other (Declaration.blank function) = way function) (bound : List String)
    (e : Expr) : definitions.blank.courseOf other bound e.blank = definitions.courseOf way bound e := by
  cases e with
  | number n => rfl
  | text s => rfl
  | «variable» name => rfl
  | call function arguments =>
      unfold Expr.blank courseOf
      rw [Expr.length_blankAll, courseOfAll_blank same, courseOfCall_blank same]

theorem courseOfAll_blank (same : ∀ function, other (Declaration.blank function) = way function) (bound : List String)
    (expressions : List Expr) :
    definitions.blank.courseOfAll other bound (Expr.blankAll expressions) =
      definitions.courseOfAll way bound expressions := by
  cases expressions with
  | nil => rfl
  | cons e rest =>
      unfold Expr.blankAll courseOfAll
      rw [courseOf_blank same, courseOfAll_blank same]

end

theorem courseOfBody_blank (same : ∀ function, other (Declaration.blank function) = way function)
    (bound : List String) (statements : List Stmt) :
    definitions.blank.courseOfBody other bound (Stmt.blankAll statements) =
      definitions.courseOfBody way bound statements := by
  induction statements with
  | nil => rfl
  | cons statement rest ih =>
      cases statement with
      | ret result =>
          cases result with
          | none => rfl
          | some e =>
              unfold Stmt.blankAll Stmt.blank courseOfBody
              rw [courseOf_blank same]
      | declare name params body => rfl
      | call function arguments =>
          unfold Stmt.blankAll Stmt.blank courseOfBody
          rw [Expr.length_blankAll, courseOfAll_blank same, courseOfCall_blank same, ih]

theorem courseWithin_blank (definitions : Definitions) (depth : Nat) (function : Declaration) :
    definitions.blank.courseWithin depth function.blank = definitions.courseWithin depth function := by
  induction depth generalizing function with
  | zero => rfl
  | succ depth ih =>
      unfold courseWithin courseOfActivation
      rw [← courseOfBody_blank ih function.params function.body]
      rfl

theorem course_blank (definitions : Definitions) : definitions.blank.course = definitions.course := by
  unfold course courseAt
  rw [courseOfCall_blank (definitions.courseWithin_blank _)]
  simp only [blank, List.length_map]

end Definitions

theorem Program.course_eq {program other : Program} {natives others : Registry} (shape : program.blank = other.blank)
    (names : natives.names = others.names) :
    (program.definitions natives).course = (other.definitions others).course := by
  have blank (program : Program) (natives : Registry) :
      (program.definitions natives).blank = ⟨program.blank.declarations, natives.blank⟩ := by
    rw [program.declarations_blank]
    rfl
  calc (program.definitions natives).course
    _ = (program.definitions natives).blank.course := (Definitions.course_blank _).symm
    _ = (other.definitions others).blank.course := by
        rw [blank, blank, shape, Registry.blank_eq_of_names names]
    _ = (other.definitions others).course := Definitions.course_blank _

theorem Program.length_declarations_eq {program other : Program} (shape : program.blank = other.blank) :
    program.declarations.length = other.declarations.length := by
  rw [← List.length_map Declaration.blank, ← program.declarations_blank, shape, other.declarations_blank,
    List.length_map]

/-! ## Calls -/

def Event.call? : Event → Option (String × Nat)
  | .called function arguments => some (function, arguments)
  | _ => none

def World.calls {σ : Type} (world : World σ) : List (String × Nat) := world.events.filterMap Event.call?

def Act.call? : Act → Option (String × Nat)
  | .called function arguments => some (function, arguments)
  | _ => none

theorem World.Goes.calls {σ : Type} [Writer σ] {natives : Registry} {acts : List Act} {world after : World σ}
    (goes : World.Goes natives acts world after) : after.calls = world.calls ++ acts.filterMap Act.call? := by
  induction goes with
  | nil world => exact (List.append_nil _).symm
  | @cons act acts world middle after first rest ih =>
      rw [ih]
      cases first with
      | called function arguments =>
          rw [World.calls, World.noted, List.filterMap_append, List.append_assoc]
          rfl
      | listed => rfl
      | performed registered performs =>
          have silent (reported : List Diagnostic) : (reported.map Event.reported).filterMap Event.call? = [] := by
            simp [Event.call?]
          rw [WorldM.perform_eq, Option.some.injEq, Prod.mk.injEq] at performs
          rw [← performs.2, World.calls, List.filterMap_append, silent, List.append_nil]
          rfl
      | entered => rfl
      | failed => rfl
      | reported mishap =>
          rw [World.calls, World.noted, List.filterMap_append, List.append_assoc]
          rfl

/-! ## Two runs -/

namespace Interpreter

variable {σ τ : Type} {program other : Program} {natives others : Registry} {memory another : Memory}

theorem record_blind (shape : program.blank = other.blank) :
    MemoryM.Blind (fun _ _ => True) (record program natives) (record other others) := by
  apply (Buffer.pushAll_blind (Program.length_declarations_eq shape) _).bind
  intro functions table _
  exact (MemoryM.Blind.note _ _).andThen fun _ => .pure trivial

theorem create_outline {output : σ} {writer : τ} {sink collector : Sink} {first : Interpreter σ}
    {second : Interpreter τ} (shape : program.blank = other.blank)
    (same : memory.arena.outline = another.arena.outline)
    (created : create memory output sink natives program = .ok first)
    (made : create another writer collector others other = .ok second) :
    first.machine.memory.arena.outline = second.machine.memory.arena.outline := by
  have ends : MemoryM.Alike _ ((record program natives).run memory) ((record other others).run another) :=
    record_blind shape memory another same
  rw [create] at created made
  generalize (record program natives).run memory = result at ends created
  generalize (record other others).run another = ending at ends made
  cases ends with
  | ok _ alike =>
      cases created
      cases made
      exact alike
  | error _ => cases created

end Interpreter

/-- Runs of programs that differ in literals only, with natives of the same names, over arenas of one
outline: if one ends, so does the other, and they take the same acts, so that they make the same
calls and the interpreter reports the same. They end in the same error, or the entry point returns in
both. -/
theorem control_ignores_data {σ τ : Type} [Writer σ] [Writer τ] {program other : Program}
    {natives others : Registry} {first after : Interpreter σ} {second : Interpreter τ}
    {result : Except RunError Int} (serves : first.Serves (program.definitions natives))
    (serving : second.Serves (other.definitions others)) (shape : program.blank = other.blank)
    (names : natives.names = others.names)
    (same : first.machine.memory.arena.outline = second.machine.memory.arena.outline)
    (ended : first.run = (.ok result, after)) :
    let acts := (program.definitions natives).course.acts
    ∃ conclusion behind world another,
      second.run = (.ok conclusion, behind) ∧
      first.Took natives acts result after world ∧ second.Took others acts conclusion behind another ∧
      world.calls = another.calls ∧
      after.machine.memory.arena.stats = behind.machine.memory.arena.stats ∧
      after.machine.memory.arena.remaining = behind.machine.memory.arena.remaining ∧
      ((∃ abort : Abort, result = .error abort.error ∧ conclusion = .error abort.error) ∨
        ∃ value returned : Value,
          result = Outcome.verdict (.ok value) ∧ conclusion = Outcome.verdict (.ok returned)) := by
  intro acts
  obtain ⟨outcome, k, world, ending, foretold, verdict, _, took⟩ := Interpreter.run_took serves ended
  have course := Program.course_eq shape names
  rw [course] at ending
  have replayed := took.replayed
  rw [same, course] at replayed
  obtain ⟨conclusion, behind, ran⟩ := Interpreter.run_of_course serving ending replayed
  obtain ⟨final, _, another, reached, foretells, answer, _, taken⟩ := Interpreter.run_took serving ran
  rw [ending, Option.some.injEq] at reached
  cases reached
  rw [← course] at taken
  have alike : after.machine.memory.arena.outline = behind.machine.memory.arena.outline := by
    have others := taken.replayed
    rw [course, replayed, Option.some.injEq] at others
    exact others
  refine ⟨conclusion, behind, world, another, ran, took, taken, ?_, ?_, ?_, ?_⟩
  · rw [took.goes.calls, taken.goes.calls]
    rfl
  · rw [← Arena.stats_outline, alike, Arena.stats_outline]
  · rw [← Arena.remaining_outline, alike, Arena.remaining_outline]
  · cases verdict
    cases answer
    cases foretold with
    | ok value =>
        cases foretells with
        | ok returned => exact .inr ⟨value, returned, rfl, rfl⟩
    | error abort =>
        cases foretells with
        | error => exact .inl ⟨abort, rfl, rfl⟩

def Program.returning (result : Expr) : Program :=
  [.declare "main" [] [.call "print" [.variable "x"], .ret (some result)]]

theorem control_ignores_data_returning :
    let program := Program.returning (.number .zero)
    let other := Program.returning (.text "a")
    let others := Registry.empty.register "print" fun _ => .done (.text "b")
    ∃ first second result after, Interpreter.create .small OutputStream.unbounded .collecting .standard program = .ok first ∧
      Interpreter.create .small OutputStream.unbounded .passing others other = .ok second ∧
      first.run = (.ok result, after) ∧
      ∃ conclusion behind world another, second.run = (.ok conclusion, behind) ∧
        first.Took .standard (program.definitions .standard).course.acts result after world ∧
        second.Took others (program.definitions .standard).course.acts conclusion behind another ∧
        world.calls = another.calls ∧
        after.machine.memory.arena.stats = behind.machine.memory.arena.stats ∧
        after.machine.memory.arena.remaining = behind.machine.memory.arena.remaining := by
  intro program other others
  have works : ((Interpreter.create .small OutputStream.unbounded .collecting .standard program).toOption.bind
      fun first => (Interpreter.create .small OutputStream.unbounded .passing others other).toOption.bind
        fun _ => first.run.1.toOption.bind some).isSome := by
    decide +kernel
  have sound := (Memory.create_holds System.paged_sound Memory.small_created).sound
  have shape : program.blank = other.blank := rfl
  have names : Registry.standard.names = others.names := rfl
  obtain ⟨first, created, works⟩ := exists_ok_of_bind works
  obtain ⟨second, made, works⟩ := exists_ok_of_bind works
  obtain ⟨result, answered, _⟩ := exists_ok_of_bind works
  have ran : first.run = (.ok result, first.run.2) := Prod.ext answered rfl
  have same := Interpreter.create_outline shape (Eq.refl Memory.small.arena.outline) created made
  obtain ⟨conclusion, behind, world, another, ended, took, taken, calls, stats, remaining, _⟩ :=
    control_ignores_data (Interpreter.create_serves sound created) (Interpreter.create_serves sound made)
      shape names same ran
  exact ⟨first, second, result, _, created, made, ran, conclusion, behind, world, another, ended, took, taken, calls,
    stats, remaining⟩

end ArenaLang
