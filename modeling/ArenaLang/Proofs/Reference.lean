import ArenaLang.Interpreter

/-!
# The reference evaluator

What programs do, told without memory: argument lists, scopes and the table of declared functions
are plain lists. A world is all that a run acts on from outside, the output of the program and the
events of the run. The evaluator has no answer where calls are nested deeper than it was told to
follow them; a run ends if there is an answer at some depth, and `Definitions.enter_mono` says that
going deeper does not change it.
-/

namespace ArenaLang

structure World (σ : Type) where
  output : σ
  events : List Event

def World.noted {σ : Type} (event : Event) (world : World σ) : World σ :=
  { world with events := world.events ++ [event] }

abbrev WorldM (σ : Type) := StateT (World σ) Option

namespace WorldM

variable {σ : Type}

def note (event : Event) : WorldM σ Unit :=
  modify fun world => { world with events := world.events ++ [event] }

def report (d : Diagnostic) : WorldM σ Unit := note (.reported d)

def reportAll : List Diagnostic → WorldM σ Unit
  | [] => pure ()
  | d :: rest => do
      report d
      reportAll rest

def perform [Writer σ] (script : Script) : WorldM σ Value := do
  let performance := script.run (← get).output
  modify fun world => { world with output := performance.output }
  reportAll performance.reported
  return performance.value

def recover (d : Diagnostic) : WorldM σ Value := do
  report d
  return .nothing

theorem reportAll_eq (diagnostics : List Diagnostic) (world : World σ) :
    reportAll diagnostics world = some ((), { world with events := world.events ++ diagnostics.map .reported }) := by
  induction diagnostics generalizing world with
  | nil => rw [List.map_nil, List.append_nil]; rfl
  | cons d rest ih =>
      have step : reportAll (d :: rest) world = reportAll rest (world.noted (.reported d)) := rfl
      rw [step, ih, World.noted, List.append_assoc]
      rfl

theorem perform_eq [Writer σ] (script : Script) (world : World σ) :
    perform script world =
      let performance := script.run world.output
      some (performance.value, ⟨performance.output, world.events ++ performance.reported.map .reported⟩) := by
  have reporting := reportAll_eq (script.run world.output).reported
    { world with output := (script.run world.output).output }
  show ((reportAll (script.run world.output).reported
    { world with output := (script.run world.output).output }).bind fun ending => some (_, ending.2)) = _
  rw [reporting]
  rfl

end WorldM

structure Activation where
  bindings : List Binding
  result : Value
  halted : Bool

namespace Activation

def fresh (params : List String) (values : List Value) : Activation :=
  ⟨List.zipWith Binding.mk params values, .nothing, false⟩

def lookup? (name : String) (activation : Activation) : Option Value :=
  (activation.bindings.find? (·.name == name)).map Binding.value

end Activation

structure Definitions where
  functions : List Declaration
  natives : Registry

namespace Definitions

variable {σ : Type}

open WorldM

def resolve (name : String) (definitions : Definitions) : Option Callee :=
  match definitions.natives.lookup? name with
  | some native => some (.native native.handler)
  | none => (definitions.functions.find? (·.name == name)).map .declared

abbrev Entry (σ : Type) := Declaration → List Value → WorldM σ Outcome

variable [Writer σ]

def call (definitions : Definitions) (enter : Entry σ) (name : String) (count : Nat)
    (arguments : WorldM σ (List Value)) : WorldM σ Outcome :=
  match definitions.resolve name with
  | none => return .error (.unresolved name)
  | some callee => do
      note (.called name count)
      match callee with
      | .native handler => return .ok (← perform (handler ⟨name, ← arguments⟩))
      | .declared function =>
          if function.arity = count then enter function (← arguments)
          else return .error (.arity function.name function.arity count)

mutual

def evaluate (definitions : Definitions) (enter : Entry σ) (activation : Activation) : Expr → WorldM σ Value
  | .number n => pure (.number n)
  | .text s => pure (.text s)
  | .variable name =>
      match activation.lookup? name with
      | some value => return value
      | none => recover (.error ("undefined variable '" ++ name ++ "'"))
  | .call function arguments => do
      match ← definitions.call enter function arguments.length
        (definitions.evaluateAll enter activation arguments) with
      | .ok value => return value
      | .error error => recover (.error error.message)

def evaluateAll (definitions : Definitions) (enter : Entry σ) (activation : Activation) :
    List Expr → WorldM σ (List Value)
  | [] => return []
  | e :: rest => do
      let value ← definitions.evaluate enter activation e
      return value :: (← definitions.evaluateAll enter activation rest)

end

def execute (definitions : Definitions) (enter : Entry σ) (activation : Activation) :
    Stmt → WorldM σ (Except RunError Activation)
  | .ret none => return .ok { activation with halted := true }
  | .ret (some e) => do
      let result ← definitions.evaluate enter activation e
      return .ok { activation with halted := true, result }
  | .call function arguments => do
      match ← definitions.call enter function arguments.length
        (definitions.evaluateAll enter activation arguments) with
      | .ok _ => return .ok activation
      | .error error => return .error error
  | .declare name _ _ => return .error (.nested name)

def executeAll (definitions : Definitions) (enter : Entry σ) (activation : Activation) :
    List Stmt → WorldM σ (Except RunError Activation)
  | [] => return .ok activation
  | statement :: rest => do
      match ← definitions.execute enter activation statement with
      | .error error => return .error error
      | .ok activation =>
          if activation.halted then return .ok activation
          else definitions.executeAll enter activation rest

def activate (definitions : Definitions) (nested : Entry σ) : Entry σ := fun function values => do
  match ← definitions.executeAll nested (.fresh function.params values) function.body with
  | .ok activation => return .ok activation.result
  | .error error => return .error error

def enter (definitions : Definitions) : Nat → Entry σ
  | 0 => fun _ _ _ => none
  | depth + 1 => definitions.activate (definitions.enter depth)

def callEntryPoint (definitions : Definitions) (depth : Nat) : WorldM σ (Except RunError Int) := do
  match ← definitions.call (definitions.enter depth) Code.entryPoint 0 (pure []) with
  | .error error => return .error error
  | .ok value =>
      match value.number? with
      | .ok n => return .ok n.toExitCode
      | .error mismatch => return .error (.exitKind Code.entryPoint mismatch.found)

def flush : WorldM σ Unit := do
  let world ← get
  let (answer, output) := Writer.flush world.output
  set { world with output }
  match answer with
  | .ok () => return
  | .error reason => report (.warning ("failed to flush output: " ++ reason))

def runWithin (definitions : Definitions) (depth : Nat) : WorldM σ (Except RunError Int) := do
  let result ← definitions.callEntryPoint depth
  flush
  if let .ok exitCode := result then note (.exited exitCode)
  return result

end Definitions

def Program.definitions (program : Program) (natives : Registry) : Definitions :=
  ⟨program.declarations, natives⟩

def Program.world {σ : Type} (program : Program) (natives : Registry) (output : σ) : World σ :=
  ⟨output, [.initialized program.declarations.length natives.size]⟩

/-- Whether a run of a program ends, and with which result and in which world. -/
def Program.Ends {σ : Type} [Writer σ] (program : Program) (natives : Registry) (output : σ)
    (result : Except RunError Int) (world : World σ) : Prop :=
  ∃ depth, (program.definitions natives).runWithin depth (program.world natives output) = some (result, world)

/-! ## Depth -/

namespace WorldM

variable {σ α β : Type}

def Within (step deeper : WorldM σ α) : Prop :=
  ∀ world ending, step world = some ending → deeper world = some ending

theorem bind_apply (step : WorldM σ α) (next : α → WorldM σ β) (world : World σ) :
    (step >>= next) world = (step world).bind fun ending => next ending.1 ending.2 := rfl

theorem get_apply (world : World σ) : (get : WorldM σ (World σ)) world = some (world, world) := rfl

theorem set_apply (after world : World σ) : (set after : WorldM σ PUnit) world = some ((), after) := rfl

theorem Within.refl (step : WorldM σ α) : Within step step := fun _ _ ends => ends

theorem Within.bind {step deeper : WorldM σ α} {next later : α → WorldM σ β} (first : Within step deeper)
    (second : ∀ a, Within (next a) (later a)) : Within (step >>= next) (deeper >>= later) := by
  intro world ending ends
  rw [bind_apply] at ends ⊢
  obtain ⟨middle, stepEnds, nextEnds⟩ := Option.bind_eq_some_iff.mp ends
  rw [first world middle stepEnds]
  exact second middle.1 middle.2 ending nextEnds

end WorldM

namespace Definitions

variable {σ : Type} [Writer σ] {definitions others : Definitions} {shallow deep : Entry σ}

open WorldM

def Deepens (definitions : Definitions) (shallow deep : Entry σ) : Prop :=
  ∀ function ∈ definitions.functions, ∀ values, WorldM.Within (shallow function values) (deep function values)

theorem resolve_mem {name : String} {function : Declaration}
    (resolved : definitions.resolve name = some (.declared function)) : function ∈ definitions.functions := by
  unfold resolve at resolved
  split at resolved
  · cases resolved
  · obtain ⟨found, searched, same⟩ := Option.map_eq_some_iff.mp resolved
    cases same
    exact List.mem_of_find?_eq_some searched

theorem resolve_native {name : String} {handler : Handler}
    (resolved : definitions.resolve name = some (.native handler)) :
    ∃ native, definitions.natives.lookup? name = some native ∧ handler = native.handler := by
  unfold resolve at resolved
  split at resolved
  · rename_i native found
    cases resolved
    exact ⟨native, found, rfl⟩
  · obtain ⟨found, searched, same⟩ := Option.map_eq_some_iff.mp resolved
    cases same

/-- What a name is resolved to, here and under other definitions: functions that look the same to a
caller, of which one ends as the other does where that one ends, or else the same. -/
inductive Resolved (shallow deep : Entry σ) : Option Callee → Option Callee → Prop
  | missing : Resolved shallow deep none none
  | native (handler : Handler) : Resolved shallow deep (some (.native handler)) (some (.native handler))
  | declared {function other : Declaration} (name : function.name = other.name) (arity : function.arity = other.arity)
      (within : ∀ values, WorldM.Within (shallow function values) (deep other values)) :
      Resolved shallow deep (some (.declared function)) (some (.declared other))

def Matches (definitions others : Definitions) (shallow deep : Entry σ) : Prop :=
  ∀ name, Resolved shallow deep (definitions.resolve name) (others.resolve name)

omit [Writer σ] in
theorem Deepens.resolved (deeper : definitions.Deepens shallow deep) :
    definitions.Matches definitions shallow deep := by
  intro name
  cases resolved : definitions.resolve name with
  | none => exact .missing
  | some callee =>
      cases callee with
      | native handler => exact .native handler
      | declared function => exact .declared rfl rfl (deeper function (resolve_mem resolved))

theorem call_within (same : definitions.Matches others shallow deep) (name : String) (count : Nat)
    {arguments rest : WorldM σ (List Value)} (within : WorldM.Within arguments rest) :
    WorldM.Within (definitions.call shallow name count arguments) (others.call deep name count rest) := by
  have resolved := same name
  unfold call
  generalize definitions.resolve name = callee at resolved ⊢
  generalize others.resolve name = other at resolved ⊢
  cases resolved with
  | missing => exact .refl _
  | native handler =>
      apply (WorldM.Within.refl _).bind
      intro _
      exact within.bind fun values => .refl _
  | declared names arities entered =>
      apply (WorldM.Within.refl _).bind
      intro _
      simp only [names, arities]
      split
      · exact within.bind entered
      · exact .refl _

mutual

theorem evaluate_within (same : definitions.Matches others shallow deep) (activation : Activation) (e : Expr) :
    WorldM.Within (definitions.evaluate shallow activation e) (others.evaluate deep activation e) := by
  cases e with
  | number n => exact .refl _
  | text s => exact .refl _
  | «variable» name => exact .refl _
  | call function arguments =>
      unfold evaluate
      exact (call_within same function _ (evaluateAll_within same activation arguments)).bind
        fun _ => .refl _

theorem evaluateAll_within (same : definitions.Matches others shallow deep) (activation : Activation) (expressions : List Expr) :
    WorldM.Within (definitions.evaluateAll shallow activation expressions)
      (others.evaluateAll deep activation expressions) := by
  cases expressions with
  | nil => exact .refl _
  | cons e rest =>
      unfold evaluateAll
      apply (evaluate_within same activation e).bind
      intro value
      exact (evaluateAll_within same activation rest).bind fun _ => .refl _

end

theorem execute_within (same : definitions.Matches others shallow deep) (activation : Activation) (statement : Stmt) :
    WorldM.Within (definitions.execute shallow activation statement)
      (others.execute deep activation statement) := by
  cases statement with
  | ret result =>
      cases result with
      | none => exact .refl _
      | some e => exact (evaluate_within same activation e).bind fun _ => .refl _
  | call function arguments =>
      exact (call_within same function _ (evaluateAll_within same activation arguments)).bind
        fun _ => .refl _
  | declare name params body => exact .refl _

theorem executeAll_within (same : definitions.Matches others shallow deep) (activation : Activation) (statements : List Stmt) :
    WorldM.Within (definitions.executeAll shallow activation statements)
      (others.executeAll deep activation statements) := by
  induction statements generalizing activation with
  | nil => exact .refl _
  | cons statement rest ih =>
      apply (execute_within same activation statement).bind
      rintro (error | activation)
      · exact .refl _
      · simp only
        split
        · exact .refl _
        · exact ih activation

theorem enter_succ (definitions : Definitions) (depth : Nat) :
    definitions.Deepens (definitions.enter (σ := σ) depth) (definitions.enter (depth + 1)) := by
  induction depth with
  | zero =>
      intro function _ values world ending ends
      cases ends
  | succ depth ih =>
      intro function _ values
      exact (executeAll_within ih.resolved _ function.body).bind fun _ => .refl _

theorem enter_mono (definitions : Definitions) {depth deeper : Nat} (le : depth ≤ deeper) :
    definitions.Deepens (definitions.enter (σ := σ) depth) (definitions.enter deeper) := by
  induction le with
  | refl => exact fun function _ values => .refl _
  | step _ ih =>
      intro function member values world ending ends
      exact enter_succ definitions _ function member values world ending
        (ih function member values world ending ends)

theorem runWithin_within {depth deeper : Nat}
    (same : definitions.Matches others (definitions.enter (σ := σ) depth) (others.enter deeper)) :
    WorldM.Within (definitions.runWithin (σ := σ) depth) (others.runWithin deeper) := by
  have entry : WorldM.Within (definitions.callEntryPoint (σ := σ) depth) (others.callEntryPoint deeper) :=
    (call_within same _ 0 (.refl _)).bind fun _ => .refl _
  exact entry.bind fun _ => .refl _

end Definitions

theorem Program.Ends.unique {σ : Type} [Writer σ] {program : Program} {natives : Registry} {output : σ}
    {result other : Except RunError Int} {world another : World σ}
    (ends : program.Ends natives output result world) (again : program.Ends natives output other another) :
    other = result ∧ another = world := by
  obtain ⟨depth, ends⟩ := ends
  obtain ⟨deeper, again⟩ := again
  have first := Definitions.runWithin_within (Definitions.enter_mono _ (Nat.le_max_left depth deeper)).resolved _ _ ends
  have second :=
    Definitions.runWithin_within (Definitions.enter_mono _ (Nat.le_max_right depth deeper)).resolved _ _ again
  rw [first, Option.some.injEq, Prod.mk.injEq] at second
  exact ⟨second.1.symm, second.2.symm⟩

end ArenaLang
