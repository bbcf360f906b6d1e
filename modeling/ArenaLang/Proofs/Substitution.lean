import ArenaLang.Native.Print
import ArenaLang.OutputStream
import ArenaLang.Proofs.Runs

namespace ArenaLang

inductive Literal where
  | number (n : Number)
  | text (s : String)

namespace Literal

def value : Literal → Value
  | number n => .number n
  | text s => .text s

def expr : Literal → Expr
  | number n => .number n
  | text s => .text s

end Literal

/-! ## Programs with literals for names -/

abbrev Given := List (String × Literal)

mutual

def Expr.substitute (given : Given) : Expr → Expr
  | .number n => .number n
  | .text s => .text s
  | .variable name =>
      match given.find? (·.1 == name) with
      | some pair => pair.2.expr
      | none => .variable name
  | .call function arguments => .call function (Expr.substituteAll given arguments)

def Expr.substituteAll (given : Given) : List Expr → List Expr
  | [] => []
  | e :: rest => e.substitute given :: Expr.substituteAll given rest

end

/-- The declarations in a body are left alone, for a body ends at them. -/
def Stmt.substitute (given : Given) : Stmt → Stmt
  | .declare name params body => .declare name params body
  | .ret result => .ret (result.map (Expr.substitute given))
  | .call function arguments => .call function (Expr.substituteAll given arguments)

def Declaration.instantiate (function : Declaration) (literals : List Literal) : Declaration :=
  ⟨function.name, [], function.body.map (Stmt.substitute (function.params.zip literals))⟩

theorem Expr.length_substituteAll (given : Given) (expressions : List Expr) :
    (substituteAll given expressions).length = expressions.length := by
  induction expressions with
  | nil => rfl
  | cons e rest ih => simp only [substituteAll, List.length_cons, ih]

/-! ## The reference -/

def Given.bindings (given : Given) : List Binding := given.map fun pair => ⟨pair.1, pair.2.value⟩

def Activation.bound (bindings : List Binding) (activation : Activation) : Activation := { activation with bindings }

theorem Activation.lookup?_bound (given : Given) (name : String) (activation : Activation) :
    (activation.bound given.bindings).lookup? name = (given.find? (·.1 == name)).map fun pair => pair.2.value := by
  simp only [lookup?, bound, Given.bindings, List.find?_map, Option.map_map]
  rfl

namespace Definitions

variable {σ : Type} [Writer σ] (definitions : Definitions) (enter : Entry σ) (given : Given) (activation : Activation)

mutual

theorem evaluate_substitute (e : Expr) :
    definitions.evaluate enter (activation.bound given.bindings) e =
      definitions.evaluate enter (activation.bound []) (e.substitute given) := by
  cases e with
  | number n => rfl
  | text s => rfl
  | «variable» name =>
      rw [evaluate, Activation.lookup?_bound, Expr.substitute]
      -- The first binding of a name wins, and so does the first literal given for it.
      cases found : given.find? (·.1 == name) with
      | none => rfl
      | some pair =>
          obtain ⟨_, literal⟩ := pair
          cases literal <;> rfl
  | call function arguments =>
      rw [evaluate, Expr.substitute, evaluate, Expr.length_substituteAll, evaluateAll_substitute arguments]

theorem evaluateAll_substitute (expressions : List Expr) :
    definitions.evaluateAll enter (activation.bound given.bindings) expressions =
      definitions.evaluateAll enter (activation.bound []) (Expr.substituteAll given expressions) := by
  cases expressions with
  | nil => rfl
  | cons e rest =>
      rw [evaluateAll, Expr.substituteAll, evaluateAll, evaluate_substitute e, evaluateAll_substitute rest]

end

theorem execute_bound (bindings : List Binding) (statement : Stmt) :
    definitions.execute enter (activation.bound bindings) statement =
      Except.map (Activation.bound bindings) <$> definitions.execute enter (activation.bound bindings) statement := by
  cases statement with
  | declare name params body => rfl
  | ret result =>
      cases result with
      | none => rfl
      | some e =>
          simp only [execute, map_bind, map_pure]
          rfl
  | call function arguments =>
      simp only [execute, map_bind]
      congr 1
      funext outcome
      cases outcome <;> rfl

theorem execute_substitute (statement : Stmt) :
    definitions.execute enter (activation.bound given.bindings) statement =
      Except.map (Activation.bound given.bindings) <$>
        definitions.execute enter (activation.bound []) (statement.substitute given) := by
  cases statement with
  | declare name params body => rfl
  | ret result =>
      cases result with
      | none => rfl
      | some e =>
          simp only [execute, Stmt.substitute, Option.map_some, evaluate_substitute, map_bind, map_pure]
          rfl
  | call function arguments =>
      simp only [execute, Stmt.substitute, Expr.length_substituteAll, evaluateAll_substitute, map_bind]
      congr 1
      funext outcome
      cases outcome <;> rfl

theorem executeAll_substitute (statements : List Stmt) :
    definitions.executeAll enter (activation.bound given.bindings) statements =
      Except.map (Activation.bound given.bindings) <$>
        definitions.executeAll enter (activation.bound []) (statements.map (Stmt.substitute given)) := by
  induction statements generalizing activation with
  | nil => rfl
  | cons statement rest ih =>
      rw [executeAll, List.map_cons, executeAll, execute_substitute, execute_bound, map_bind, bind_map_left,
        bind_map_left, bind_map_left]
      congr 1
      funext ended
      cases ended with
      | error error => rfl
      | ok next =>
          simp only [Except.map, Activation.bound]
          split
          · rfl
          · exact ih next

theorem activate_substitute (function : Declaration) (literals : List Literal) :
    definitions.activate enter function (literals.map Literal.value) =
      definitions.activate enter (function.instantiate literals) [] := by
  have fresh : Activation.fresh function.params (literals.map Literal.value) =
      (Activation.fresh [] []).bound (Given.bindings (function.params.zip literals)) := by
    simp only [Activation.fresh, Activation.bound, Given.bindings, List.zipWith_map_right, List.map_zip_eq_zipWith]
    rfl
  have bare : Activation.fresh (function.instantiate literals).params [] = (Activation.fresh [] []).bound [] := rfl
  unfold activate
  rw [fresh, bare, executeAll_substitute, bind_map_left]
  unfold Declaration.instantiate
  congr 1
  funext ended
  cases ended <;> rfl

theorem enter_substitute (depth : Nat) (function : Declaration) (literals : List Literal) :
    definitions.enter (σ := σ) depth function (literals.map Literal.value) =
      definitions.enter depth (function.instantiate literals) [] := by
  cases depth with
  | zero => rfl
  | succ depth => exact definitions.activate_substitute (definitions.enter depth) function literals

end Definitions

/-! ## Machines that show the same -/

structure Machine.Alike {σ : Type} (machine another : Machine σ) : Prop where
  output : machine.output = another.output
  sink : machine.sink = another.sink
  events : machine.memory.log.ofRun = another.memory.log.ofRun

section

variable {σ : Type} {machine another after last : Machine σ} {world other : World σ}

theorem Machine.Alike.refl (machine : Machine σ) : machine.Alike machine := ⟨rfl, rfl, rfl⟩

theorem Machine.Shows.alike (alike : machine.Alike another) (shows : machine.Shows after world)
    (shown : another.Shows last world) : after.Alike last := by
  refine ⟨shows.output.trans shown.output.symm, ?_, ?_⟩
  · rw [shows.sink, shown.sink, alike.sink]
  · rw [shows.events, shown.events, alike.events]

theorem Machine.Shows.eq_of_alike (alike : machine.Alike another) (shows : machine.Shows after world)
    (shown : another.Shows last other) (same : after.Alike last) : world = other := by
  have elsewhere : another.Shows last world := by
    refine ⟨same.output ▸ shows.output, ?_, ?_⟩
    · rw [← same.events, shows.events, alike.events]
    · rw [← same.sink, shows.sink, alike.sink]
  exact shown.unique elsewhere

namespace RunM

variable {α β : Type} {needs rest : Ledger} {step follow : RunM σ α} {plain bare : WorldM σ α}

/-- Whether two steps end with the same answer or stop for the same reason, and show the same where
they answer, unless one of them is refused memory. -/
def EndAlike (one two : Except Stop α × Machine σ) : Prop :=
  (∀ refusal, one.1 ≠ .error (.memory (.refused refusal))) →
    (∀ refusal, two.1 ≠ .error (.memory (.refused refusal))) →
      one.1 = two.1 ∧ ∀ a, one.1 = .ok a → one.2.Alike two.2

theorem EndAlike.of_agree (alike : machine.Alike another)
    (first : Agree machine needs step plain fun a b ledger => a = b ∧ ledger = needs)
    (second : Agree another rest follow bare fun a b ledger => a = b ∧ ledger = rest)
    (holds : machine.memory.Holds needs) (held : another.memory.Holds rest)
    (same : plain ⟨machine.output, []⟩ = bare ⟨machine.output, []⟩) :
    EndAlike (step machine) (follow another) := by
  rw [← List.append_nil needs] at holds
  rw [← List.append_nil rest] at held
  have ends := first [] machine _ holds (.start machine)
  have ended := second [] another _ held (.start another)
  rw [← alike.output, ← same] at ended
  generalize step machine = one at ends ⊢
  generalize follow another = two at ended ⊢
  generalize plain ⟨machine.output, []⟩ = ending at ends ended
  intro accepted taken
  cases ends with
  | done given _ shows =>
      cases ended with
      | done shared _ shown => exact ⟨congrArg Except.ok (given.1.trans shared.1.symm), fun _ _ => shows.alike alike shown⟩
      | refused _ => exact absurd rfl (taken _)
  | refused _ => exact absurd rfl (accepted _)
  | tooDeep _ =>
      cases ended with
      | refused _ => exact absurd rfl (taken _)
      | tooDeep _ => exact ⟨rfl, fun _ answered => by cases answered⟩

end RunM

end

/-! ## Calls -/

theorem Definitions.call_congr {σ : Type} [Writer σ] (definitions : Definitions) (enter : Entry σ) (name : String)
    (count : Nat) {values others : WorldM σ (List Value)} {world : World σ}
    (same : values (world.noted (.called name count)) = others (world.noted (.called name count))) :
    definitions.call enter name count values world = definitions.call enter name count others world := by
  have noting : WorldM.note (.called name count) world = some ((), world.noted (.called name count)) := rfl
  unfold call
  cases definitions.resolve name with
  | none => rfl
  | some callee =>
      cases callee with
      | native handler => simp only [WorldM.bind_apply, noting, Option.bind_some, same]
      | declared function =>
          by_cases arity : function.arity = count
          · simp only [if_pos arity, WorldM.bind_apply, noting, Option.bind_some, same]
          · simp only [if_neg arity]

namespace Code

open RunM

variable {σ : Type} [Writer σ]

def argumentList (code : Code) (enter : Entry σ) (scope : Scope) (arguments : List Expr) : RunM σ (Buffer Value) := do
  code.evaluateAll enter scope arguments (← argumentBuffer arguments.length)

def argumentValues (code : Code) (enter : Entry σ) (scope : Scope) (arguments : List Expr) : RunM σ (List Value) := do
  onMemory (← code.argumentList enter scope arguments).toList

def callIn (code : Code) (enter : Entry σ) (scope : Scope) (name : String) (arguments : List Expr) : RunM σ Outcome :=
  code.call enter name arguments.length (code.argumentList enter scope arguments)

variable {start : Machine σ} {code : Code} {definitions : Definitions} {table bound : Ledger} {enter : Entry σ}
  {plain : Definitions.Entry σ} {scope : Scope} {activation : Activation}

theorem argumentList_agree (stands : code.Stands definitions table) (entering : Entry.Agrees start table enter plain)
    (held : scope.Stands activation bound) (arguments : List Expr) :
    Agree start (table ++ bound) (code.argumentList enter scope arguments)
      (definitions.evaluateAll plain activation arguments) (Listed (table ++ bound)) :=
  arguments_agree arguments.length fun _ _ listed => evaluateAll_agree stands entering held arguments listed

theorem callIn_agree (stands : code.Stands definitions table) (entering : Entry.Agrees start table enter plain)
    (held : scope.Stands activation bound) (name : String) (arguments : List Expr) :
    Agree start (table ++ bound) (code.callIn enter scope name arguments)
      (definitions.call plain name arguments.length (definitions.evaluateAll plain activation arguments))
      fun a b ledger => a = b ∧ ledger = table ++ bound :=
  call_agree stands entering name arguments.length (argumentList_agree stands entering held arguments)

theorem argumentValues_agree (stands : code.Stands definitions table) (entering : Entry.Agrees start table enter plain)
    (held : scope.Stands activation bound) (arguments : List Expr) :
    Agree start (table ++ bound) (code.argumentValues enter scope arguments)
      (definitions.evaluateAll plain activation arguments) fun a b _ => a = b := by
  rw [← bind_pure (definitions.evaluateAll plain activation arguments)]
  apply Agree.bind (argumentList_agree stands entering held arguments)
  rintro filled values _ ⟨part, placed, rfl⟩
  have reading := placed.toList_triple.frame (table ++ bound)
  apply ((Agree.onMemory reading).mapRight fun _ => values).imp
  rintro found _ ledger ⟨_, rfl, _, ⟨rfl, _⟩, _⟩
  exact ⟨ledger, rfl, .refl _⟩

theorem argumentValues_ended (stands : code.Stands definitions table) (held : scope.Stands activation bound)
    {machine middle : Machine σ} {depth : Nat} {name : String} {arguments : List Expr} {values : List Value}
    (holds : machine.memory.Holds (table ++ bound))
    (evaluated : code.argumentValues (code.enter depth) scope arguments
      (machine.noted (.called name arguments.length)) = (.ok values, middle)) :
    ∃ world, definitions.evaluateAll (definitions.enter depth) activation arguments
        (World.noted (.called name arguments.length) ⟨machine.output, []⟩) = some (values, world) ∧
      machine.Shows middle world := by
  rw [← List.append_nil (table ++ bound)] at holds
  let event : Event := .called name arguments.length
  have noted : machine.Shows (machine.noted event) (World.noted event ⟨machine.output, []⟩) :=
    (Machine.Shows.start machine).note rfl rfl
  have stored : (machine.noted event).memory.Holds (table ++ bound ++ []) := holds.of_arena_eq rfl
  have entering : Entry.Agrees machine table (code.enter depth) (definitions.enter depth) := enter_agree stands depth
  have ends := argumentValues_agree stands entering held arguments [] _ _ stored noted
  rw [evaluated] at ends
  generalize definitions.evaluateAll (definitions.enter depth) activation arguments
    (World.noted event ⟨machine.output, []⟩) = ending at ends
  cases ends with
  | done same _ shows =>
      cases same
      exact ⟨_, rfl, shows⟩

end Code

namespace Interpreter

open RunM

variable {σ : Type} [Writer σ] {interpreter another : Interpreter σ} {definitions : Definitions}

def Executes (interpreter : Interpreter σ) (definitions : Definitions) (scope : Scope) : Prop :=
  ∃ table activation bound, interpreter.code.Stands definitions table ∧ scope.Stands activation bound ∧
    interpreter.machine.memory.Holds (table ++ bound)

theorem enter_endAlike (serves : interpreter.Serves definitions) (others : another.Serves definitions)
    (alike : interpreter.machine.Alike another.machine) (depth : Nat) (function : Declaration) (literals : List Literal) :
    EndAlike (interpreter.code.enter depth function (literals.map Literal.value) interpreter.machine)
      (another.code.enter depth (function.instantiate literals) [] another.machine) := by
  obtain ⟨table, stands, holds⟩ := serves
  obtain ⟨place, stood, held⟩ := others
  exact .of_agree alike (Code.enter_agree stands depth _ _) (Code.enter_agree stood depth _ _) holds held
    (congrFun (definitions.enter_substitute depth function literals) _)

theorem callIn_endAlike {scope other : Scope} {name : String} {arguments rest : List Expr} {values : List Value}
    {middle last : Machine σ} (executes : interpreter.Executes definitions scope)
    (elsewhere : another.Executes definitions other) (alike : interpreter.machine.Alike another.machine) (depth : Nat)
    (lengths : arguments.length = rest.length)
    (first : interpreter.code.argumentValues (interpreter.code.enter depth) scope arguments
      (interpreter.machine.noted (.called name arguments.length)) = (.ok values, middle))
    (second : another.code.argumentValues (another.code.enter depth) other rest
      (another.machine.noted (.called name rest.length)) = (.ok values, last)) (same : middle.Alike last) :
    EndAlike (interpreter.code.callIn (interpreter.code.enter depth) scope name arguments interpreter.machine)
      (another.code.callIn (another.code.enter depth) other name rest another.machine) := by
  obtain ⟨table, activation, bound, stands, held, holds⟩ := executes
  obtain ⟨place, opened, part, stood, kept, stored⟩ := elsewhere
  obtain ⟨world, evaluated, shows⟩ := Code.argumentValues_ended stands held holds first
  obtain ⟨again, found, shown⟩ := Code.argumentValues_ended stood kept stored second
  obtain rfl : world = again := shows.eq_of_alike alike shown same
  refine .of_agree alike (Code.callIn_agree stands (Code.enter_agree stands depth) held name arguments)
    (Code.callIn_agree stood (Code.enter_agree stood depth) kept name rest) holds stored ?_
  rw [lengths, ← alike.output] at *
  exact definitions.call_congr _ name rest.length (evaluated.trans found.symm)

end Interpreter

/-- Entering a function with literals for its parameters ends as entering, without any arguments, what
comes of putting them for the names of the parameters in its body: with the same value or error, and
with the same output, diagnostics and events, unless a step is refused memory. What a call does depends
on what is called and on the values of the arguments alone: where two scopes give the same values for
the arguments of calls and show the same in doing so, the calls end alike. -/
theorem evaluation_is_substitution {σ : Type} [Writer σ] {definitions : Definitions} {interpreter another : Interpreter σ}
    (serves : interpreter.Serves definitions) (others : another.Serves definitions)
    (alike : interpreter.machine.Alike another.machine) (depth : Nat) :
    (∀ (function : Declaration) (literals : List Literal),
      RunM.EndAlike (interpreter.code.enter depth function (literals.map Literal.value) interpreter.machine)
        (another.code.enter depth (function.instantiate literals) [] another.machine)) ∧
      ∀ (scope other : Scope) (name : String) (arguments rest : List Expr) (values : List Value) (middle last : Machine σ),
        interpreter.Executes definitions scope → another.Executes definitions other → arguments.length = rest.length →
          interpreter.code.argumentValues (interpreter.code.enter depth) scope arguments
              (interpreter.machine.noted (.called name arguments.length)) = (.ok values, middle) →
            another.code.argumentValues (another.code.enter depth) other rest
                (another.machine.noted (.called name rest.length)) = (.ok values, last) →
              middle.Alike last →
                RunM.EndAlike
                  (interpreter.code.callIn (interpreter.code.enter depth) scope name arguments interpreter.machine)
                  (another.code.callIn (another.code.enter depth) other name rest another.machine) := by
  constructor
  · intro function literals
    exact Interpreter.enter_endAlike serves others alike depth function literals
  · intro scope other name arguments rest values middle last executes elsewhere lengths first second same
    exact Interpreter.callIn_endAlike executes elsewhere alike depth lengths first second same

/-- A parameter that is there twice stands for the first argument, and a name that is no parameter for
nothing, of which a diagnostic tells. -/
theorem evaluation_is_substitution_repeated :
    let function : Declaration :=
      ⟨"f", ["x", "x"], [.call "print" [.variable "x", .variable "y"], .ret (some (.variable "x"))]⟩
    ∃ (interpreter : Interpreter OutputStream) (answer : Value) (after last : Machine OutputStream),
      interpreter.Serves (Program.definitions [] .standard) ∧
        interpreter.code.enter 1 function [.text "a", .text "b"] interpreter.machine = (.ok (.ok answer), after) ∧
        interpreter.code.enter 1 ⟨"f", [], [.call "print" [.text "a", .variable "y"], .ret (some (.text "a"))]⟩ []
          interpreter.machine = (.ok (.ok answer), last) ∧ after.Alike last := by
  intro function
  let bare : Declaration := ⟨"f", [], [.call "print" [.text "a", .variable "y"], .ret (some (.text "a"))]⟩
  have works : ((Interpreter.create .small OutputStream.unbounded .collecting .standard []).toOption.bind
      fun interpreter => ((interpreter.code.enter 1 function [.text "a", .text "b"] interpreter.machine).1.toOption.bind
        fun outcome => outcome.toOption.bind
          fun _ => (interpreter.code.enter 1 bare [] interpreter.machine).1.toOption)).isSome = true := by
    decide +kernel
  have sound := (Memory.create_holds System.paged_sound Memory.small_created).sound
  cases created : Interpreter.create .small OutputStream.unbounded .collecting .standard [] with
  | error failure =>
      rw [created] at works
      cases works
  | ok interpreter =>
      rw [created, Except.toOption, Option.bind_some] at works
      have serves := Interpreter.create_serves sound created
      have ends := (evaluation_is_substitution serves serves (.refl _) 1).1 function [.text "a", .text "b"]
      rcases first : interpreter.code.enter 1 function [.text "a", .text "b"] interpreter.machine
        with ⟨stop | error | answer, after⟩
      · rw [first] at works
        cases works
      · rw [first] at works
        cases works
      · rcases second : interpreter.code.enter 1 bare [] interpreter.machine with ⟨stop | outcome, last⟩
        · rw [first, second] at works
          cases works
        · have same : RunM.EndAlike (.ok (.ok answer), after) (.ok outcome, last) := first ▸ second ▸ ends
          obtain ⟨answers, shows⟩ := same (fun _ refused => by cases refused) (fun _ refused => by cases refused)
          cases answers
          exact ⟨interpreter, answer, after, last, serves, first, second, shows _ rfl⟩

end ArenaLang
