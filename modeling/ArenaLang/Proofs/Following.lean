import ArenaLang.Proofs.Course
import ArenaLang.Proofs.Runs

namespace ArenaLang

inductive Foretold {α : Type} : Except RunError α → Except Abort Unit → Prop
  | ok (a : α) : Foretold (.ok a) (.ok ())
  | error (abort : Abort) : Foretold (.error abort.error) (.error abort)

namespace RunM

open MemoryM (Triple)

variable {σ α β κ ι : Type} [Writer σ] {natives : Registry} {start : Machine σ} {needs : Ledger}

inductive EndsBy (natives : Registry) (start : Machine σ) (frame : Ledger) (course : Course κ)
    (gives : α → κ → Ledger → Prop) (outline : Arena) (world : World σ) : Except Stop α × Machine σ → Prop
  | done {a : α} {k : κ} {after : Machine σ} {final : World σ} {ledger : Ledger} (ending : course.ending = some k)
      (given : gives a k ledger) (holds : after.memory.Holds (ledger ++ frame)) (shows : start.Shows after final)
      (goes : World.Goes natives course.acts world final)
      (replayed : outline.replay course.acts = some after.memory.arena.outline) :
      EndsBy natives start frame course gives outline world (.ok a, after)
  | refused {refusal : Refusal} {after : Machine σ} (replayed : outline.replay course.acts = none) :
      EndsBy natives start frame course gives outline world (.error (.memory (.refused refusal)), after)
  | tooDeep {after : Machine σ} (ending : course.ending = none) :
      EndsBy natives start frame course gives outline world (.error .nestedTooDeep, after)

def Follows (natives : Registry) (start : Machine σ) (needs : Ledger) (step : RunM σ α) (course : Course κ)
    (gives : α → κ → Ledger → Prop) : Prop :=
  ∀ (frame : Ledger) (machine : Machine σ) (world : World σ), machine.memory.Holds (needs ++ frame) →
    start.Shows machine world →
    EndsBy natives start frame course gives machine.memory.arena.outline world (step machine)

theorem EndsBy.behind {frame : Ledger} {course : Course κ} {way : κ → Course ι} {k : κ}
    {gives : β → ι → Ledger → Prop} {outline between : Arena} {world middle : World σ}
    {result : Except Stop β × Machine σ} (ending : course.ending = some k)
    (goes : World.Goes natives course.acts world middle) (replayed : outline.replay course.acts = some between)
    (ends : EndsBy natives start frame (way k) gives between middle result) :
    EndsBy natives start frame (course >>= way) gives outline world result := by
  rw [Course.bind_of_some ending]
  have again : outline.replay (course.acts ++ (way k).acts) = between.replay (way k).acts := by
    rw [Arena.replay_append, replayed]
    rfl
  cases ends with
  | done reached given holds shows others rest =>
      exact .done reached given holds shows (goes.append others) (again.trans rest)
  | refused rest => exact .refused (again.trans rest)
  | tooDeep reached => exact .tooDeep reached

namespace Follows

variable {step : RunM σ α} {course : Course κ} {gives : α → κ → Ledger → Prop}

theorem pure {a : α} {k : κ} (given : gives a k needs) : Follows natives start needs (pure a) (pure k) gives :=
  fun _ _ _ holds shows => .done rfl given holds shows (.nil _) rfl

theorem drop {a : α} {k : κ} {part : Ledger} (given : gives a k part) (subperm : part.Subperm needs) :
    Follows natives start needs (Pure.pure a) (Pure.pure k) gives :=
  fun _ _ _ holds shows =>
    .done rfl given (holds.subperm ((List.subperm_append_right _).mpr subperm)) shows (.nil _) rfl

theorem tooDeep : Follows natives start needs (throw .nestedTooDeep) (Course.tooDeep : Course κ) gives :=
  fun _ _ _ _ _ => .tooDeep rfl

theorem bind {next : α → RunM σ β} {way : κ → Course ι} {last : β → ι → Ledger → Prop}
    (first : Follows natives start needs step course gives)
    (second : ∀ a k ledger, gives a k ledger → Follows natives start ledger (next a) (way k) last) :
    Follows natives start needs (step >>= next) (course >>= way) last := by
  intro frame machine world holds shows
  have ends := first frame machine world holds shows
  rw [bind_apply]
  generalize step machine = result at ends
  cases ends with
  | done ending given held shown goes replayed =>
      exact (second _ _ _ given frame _ _ held shown).behind ending goes replayed
  | refused replayed =>
      apply EndsBy.refused
      cases ending : course.ending with
      | none => rw [Course.bind_of_none ending, replayed]
      | some k =>
          rw [Course.bind_of_some ending, Arena.replay_append, replayed]
          rfl
  | tooDeep ending =>
      apply EndsBy.tooDeep
      rw [Course.bind_of_none ending]

theorem keep {next : α → RunM σ β} {last : β → κ → Ledger → Prop}
    (first : Follows natives start needs step course gives)
    (second : ∀ a k ledger, gives a k ledger → Follows natives start ledger (next a) (Pure.pure k) last) :
    Follows natives start needs (step >>= next) course last := by
  have both := first.bind second
  rw [Course.bind_pure] at both
  exact both

theorem lone {next : α → RunM σ β} {last : β → κ → Ledger → Prop} {mid : α → Ledger → Prop}
    (taken : Follows natives start needs step (Pure.pure ()) fun a _ ledger => mid a ledger)
    (rest : ∀ a ledger, mid a ledger → Follows natives start ledger (next a) course last) :
    Follows natives start needs (step >>= next) course last := by
  have both : Follows natives start needs (step >>= next) (Pure.pure () >>= fun _ => course) last :=
    taken.bind fun a _ ledger given => rest a ledger given
  exact both

theorem failed (mishap : Mishap) (rest : Follows natives start needs step course gives) :
    Follows natives start needs step
      (do
        Course.take (.failed mishap)
        course)
      gives :=
  fun frame machine world holds shows =>
    (rest frame machine world holds shows).behind rfl (.single (.failed mishap world)) rfl

theorem reads {next : α → RunM σ β} {last : β → κ → Ledger → Prop} {a : α}
    (reading : ∀ machine : Machine σ, machine.memory.Holds needs → step machine = (.ok a, machine))
    (rest : Follows natives start needs (next a) course last) :
    Follows natives start needs (step >>= next) course last := by
  intro frame machine world holds shows
  rw [bind_apply, reading machine holds.left]
  exact rest frame machine world holds shows

theorem loads {action : MemoryM α} {next : α → RunM σ β} {last : β → κ → Ledger → Prop} {a : α}
    (loading : MemoryM.Loads needs action a) (rest : Follows natives start needs (next a) course last) :
    Follows natives start needs (RunM.onMemory action >>= next) course last := by
  apply reads _ rest
  intro machine holds
  rw [RunM.onMemory, loading machine.memory holds]

theorem onMemory {action : MemoryM α} {mid : α → Ledger → Prop} (acts : List Act) (triple : Triple needs action mid)
    (effects : MemoryM.Effects (Arena.replay acts) action)
    (silent : ∀ world : World σ, World.Goes natives acts world world) :
    Follows natives start needs (RunM.onMemory action) ⟨acts, some ()⟩ fun a _ ledger => mid a ledger := by
  intro frame machine world holds shows
  have outcome := triple frame machine.memory holds
  have replayed := effects machine.memory
  rw [RunM.onMemory]
  generalize action machine.memory = result at outcome replayed
  cases outcome with
  | done evolves given held => exact .done rfl given held (shows.evolve evolves) (silent world) replayed
  | refused evolves held => exact .refused replayed

theorem imp {other : α → κ → Ledger → Prop} (follows : Follows natives start needs step course gives)
    (weaker : ∀ a k ledger, gives a k ledger → ∃ part, other a k part ∧ part.Subperm ledger) :
    Follows natives start needs step course other := by
  intro frame machine world holds shows
  have ends := follows frame machine world holds shows
  generalize step machine = result at ends ⊢
  cases ends with
  | done ending given held shown goes replayed =>
      obtain ⟨part, given, subperm⟩ := weaker _ _ _ given
      exact .done ending given (held.subperm ((List.subperm_append_right frame).mpr subperm)) shown goes replayed
  | refused replayed => exact .refused replayed
  | tooDeep ending => exact .tooDeep ending

theorem perm {other : Ledger} (follows : Follows natives start needs step course gives) (same : other.Perm needs) :
    Follows natives start other step course gives :=
  fun frame machine world holds shows =>
    follows frame machine world (holds.perm (same.append_right frame)) shows

theorem frame (follows : Follows natives start needs step course gives) (extra : Ledger) :
    Follows natives start (needs ++ extra) step course
      fun a k ledger => ∃ given, gives a k given ∧ ledger = given ++ extra := by
  intro frame machine world holds shows
  have ends := follows (extra ++ frame) machine world (List.append_assoc needs extra frame ▸ holds) shows
  generalize step machine = result at ends ⊢
  cases ends with
  | done ending given held shown goes replayed =>
      exact .done ending ⟨_, given, rfl⟩ (List.append_assoc _ extra frame ▸ held) shown goes replayed
  | refused replayed => exact .refused replayed
  | tooDeep ending => exact .tooDeep ending

/-! ## What shows -/

theorem called (function : String) (arguments : Nat) :
    Follows natives start needs (RunM.note (.called function arguments)) (Course.take (.called function arguments))
      fun _ _ ledger => ledger = needs :=
  fun _ _ world holds shows =>
    .done rfl rfl (holds.of_arena_eq rfl) (shows.note rfl rfl) (.single (.called function arguments world)) rfl

theorem reported (mishap : Mishap) :
    Follows natives start needs (RunM.report (.error mishap.message)) (Course.take (.reported mishap))
      fun _ _ ledger => ledger = needs :=
  fun _ _ world holds shows =>
    .done rfl rfl (holds.of_arena_eq rfl) shows.report (.single (.reported mishap world)) rfl

end Follows

theorem Follows.performed {name : String} {native : Native} (registered : natives.lookup? name = some native)
    (values : List Value) :
    Follows natives start needs (RunM.perform (native.handler ⟨name, values⟩))
      (Course.take (.performed name values.length)) fun _ _ ledger => ledger = needs := by
  intro frame machine world holds shows
  have ends := Agree.perform (native.handler ⟨name, values⟩) frame machine world holds shows
  rw [perform_apply] at ends ⊢
  generalize performs : WorldM.perform (native.handler ⟨name, values⟩) world = ending at ends
  cases ends with
  | done given held shown =>
      obtain ⟨_, rfl⟩ := given
      have same := Machine.reportedAll_arena ((native.handler ⟨name, values⟩).run machine.output).reported
        { machine with output := ((native.handler ⟨name, values⟩).run machine.output).output }
      exact .done rfl rfl held shown (.single (.performed registered performs)) (by rw [same]; rfl)

end RunM

/-! ## Scopes and lists -/

structure Scope.Binds (scope : Scope) (names : List String) (bound : Ledger) : Prop where
  running : scope.halted = false
  bindings : ∃ bindings, scope.bindings.Stands bindings bound ∧ bindings.map Binding.name = names

theorem Scope.Binds.lookup_loads {scope : Scope} {names : List String} {bound : Ledger}
    (binds : scope.Binds names bound) (name : String) :
    ∃ found, MemoryM.Loads bound (scope.lookup? name) found ∧ (found.isSome ↔ name ∈ names) := by
  obtain ⟨_, bindings, stands, rfl⟩ := binds
  refine ⟨_, stands.loads.bind .pure, ?_⟩
  simp [List.find?_isSome]

namespace Code

open RunM

/-- A list of arguments with its first members in place and room for all of them. -/
def Filled (base : Ledger) (buffer : Buffer Value) (count total : Nat) (ledger : Ledger) : Prop :=
  ∃ values part, values.length = count ∧ total ≤ buffer.capacity ∧ buffer.Stands values part ∧ ledger = part ++ base

variable {σ : Type} [Writer σ] {start : Machine σ} {code : Code} {definitions : Definitions} {natives : Registry}
  {table bound extra base : Ledger} {enter : Code.Entry σ} {way : Definitions.Way}

theorem argumentBuffer_follows (total : Nat) :
    Follows natives start base (argumentBuffer total) (Course.take (.listed total))
      fun buffer _ ledger => Filled base buffer 0 total ledger := by
  have triple : MemoryM.Triple base (Buffer.withCapacity total) fun buffer ledger =>
      Filled base buffer 0 total ledger := by
    apply ((Buffer.withCapacity_roomy_triple total).frame base).mono
    intro buffer _ ⟨part, ⟨stands, room⟩, same⟩
    exact ⟨[], part, rfl, room, stands, same⟩
  apply Follows.onMemory [.listed total] triple
  · intro memory
    rw [Arena.replay_single]
    exact (Buffer.withCapacity_blind total).effects memory
  · exact fun world => .single (.listed total world)

theorem push_follows {buffer : Buffer Value} {count total : Nat} {ledger : Ledger}
    (filled : Filled base buffer count total ledger) (room : count < total) (value : Value) :
    Follows natives start ledger (onMemory (buffer.push value)) (pure ())
      fun next _ ledger => Filled base next (count + 1) total ledger := by
  obtain ⟨values, part, rfl, enough, stands, rfl⟩ := filled
  have fits : values.length < buffer.capacity := Nat.lt_of_lt_of_le room enough
  have triple : MemoryM.Triple (part ++ base) (buffer.push value) fun next ledger =>
      Filled base next (values.length + 1) total ledger := by
    apply ((Buffer.push_roomy_triple stands value fits).frame base).mono
    intro next _ ⟨grown, ⟨pushed, same⟩, given⟩
    exact ⟨values ++ [value], grown, List.length_append, same ▸ enough, pushed, given⟩
  apply Follows.onMemory [] triple
  · exact Buffer.push_effects value (stands.length_eq ▸ fits)
  · exact fun world => .nil world

theorem recover_follows {needs : Ledger} (mishap : Mishap) :
    Follows natives start needs (recover (.error mishap.message)) (Course.take (.reported mishap))
      fun _ _ ledger => ledger = needs := by
  apply Follows.keep (.reported mishap)
  intro _ _ _ same
  exact .pure same

/-! ## Calls -/

def Entry.Follows (natives : Registry) (start : Machine σ) (table : Ledger) (enter : Code.Entry σ)
    (way : Definitions.Way) : Prop :=
  ∀ function values, values.length = function.arity →
    RunM.Follows natives start table (enter function values) (way function)
      fun a k ledger => Foretold a k ∧ ledger = table

omit [Writer σ] in
theorem resolve_reads (stands : code.Stands definitions table) (name : String) (machine : Machine σ)
    (holds : machine.memory.Holds (table ++ extra)) :
    code.resolve name machine = (.ok (definitions.resolve name), machine) := by
  unfold resolve Definitions.resolve
  rw [stands.natives]
  cases definitions.natives.lookup? name with
  | some native => rfl
  | none =>
      have found : MemoryM.Loads table (code.lookup? name) (definitions.functions.find? (·.name == name)) :=
        stands.functions.loads.bind .pure
      simp only [bind_apply, onMemory, found machine.memory holds.left]
      rfl

theorem enter_follows_filled (entering : Entry.Follows natives start table enter way) (function : Declaration)
    {buffer : Buffer Value} {ledger : Ledger}
    (filled : Filled (table ++ extra) buffer function.arity function.arity ledger) :
    Follows natives start ledger (do enter function (← onMemory buffer.toList)) (way function)
      fun a k ledger => Foretold a k ∧ ledger = table ++ extra := by
  obtain ⟨values, part, length, _, stands, rfl⟩ := filled
  apply Follows.loads stands.loads.left
  have front : (part ++ (table ++ extra)).Perm (table ++ (part ++ extra)) := List.perm_append_comm_assoc _ _ _
  apply (((entering function values length).frame (part ++ extra)).perm front).imp
  intro a k _ ⟨_, ⟨foretold, same⟩, given⟩
  cases same
  cases given
  exact ⟨_, ⟨foretold, rfl⟩, ((List.sublist_append_right part extra).append_left table).subperm⟩

theorem call_follows (stands : code.Stands definitions table)
    (entering : Entry.Follows definitions.natives start table enter way) (name : String) (count : Nat)
    {arguments : RunM σ (Buffer Value)} {course : Course Unit}
    (evaluated : Follows definitions.natives start (table ++ extra) arguments course
      fun buffer _ ledger => Filled (table ++ extra) buffer count count ledger) :
    Follows definitions.natives start (table ++ extra) (code.call enter name count arguments)
      (definitions.courseOfCall way name count course) fun a k ledger => Foretold a k ∧ ledger = table ++ extra := by
  unfold Code.call Definitions.courseOfCall
  apply Follows.reads (resolve_reads stands name)
  cases resolved : definitions.resolve name with
  | none => exact .failed _ (.pure ⟨.error (.unresolved name), rfl⟩)
  | some callee =>
      apply Follows.bind (.called name count)
      intro _ _ _ given
      cases given
      cases callee with
      | native handler =>
          apply Follows.bind evaluated
          intro buffer _ ledger ⟨values, part, length, _, placed, given⟩
          cases length
          cases given
          apply Follows.loads placed.loads.left
          obtain ⟨native, registered, performs⟩ := Definitions.resolve_native resolved
          cases performs
          apply Follows.bind (.performed registered values)
          intro value _ _ given
          cases given
          exact .drop ⟨.ok value, rfl⟩ (List.sublist_append_right part _).subperm
      | declared function =>
          simp only
          split
          · rename_i exact
            cases exact
            apply Follows.bind evaluated
            intro buffer _ ledger filled
            exact enter_follows_filled entering function filled
          · exact .failed _ (.pure ⟨.error (.arity function.name function.arity count), rfl⟩)

/-! ## Expressions -/

mutual

theorem evaluate_follows (stands : code.Stands definitions table)
    (entering : Entry.Follows definitions.natives start table enter way) {scope : Scope} {names : List String}
    (binds : scope.Binds names bound) (e : Expr) :
    Follows definitions.natives start (table ++ bound) (code.evaluate enter scope e) (definitions.courseOf way names e)
      fun _ _ ledger => ledger = table ++ bound := by
  cases e with
  | number n => exact .pure rfl
  | text s => exact .pure rfl
  | «variable» name =>
      obtain ⟨found, loading, isBound⟩ := binds.lookup_loads name
      unfold evaluate Definitions.courseOf
      apply Follows.loads loading.right
      cases found with
      | some value =>
          rw [if_pos (isBound.mp rfl)]
          exact .pure rfl
      | none =>
          rw [if_neg fun member => Bool.noConfusion (isBound.mpr member)]
          exact .failed _ (recover_follows (.unbound name))
  | call function arguments =>
      have evaluated := arguments_follows stands entering binds arguments
      unfold evaluate Definitions.courseOf
      apply Follows.bind (call_follows stands entering function arguments.length evaluated)
      intro outcome _ _ ⟨foretold, given⟩
      cases given
      cases foretold with
      | ok value => exact .pure rfl
      | error abort =>
          simp only [RunError.message_eq]
          exact recover_follows (.failed abort.error)

theorem arguments_follows (stands : code.Stands definitions table)
    (entering : Entry.Follows definitions.natives start table enter way) {scope : Scope} {names : List String}
    (binds : scope.Binds names bound) (arguments : List Expr) :
    Follows definitions.natives start (table ++ bound)
      (do code.evaluateAll enter scope arguments (← argumentBuffer arguments.length))
      (do
        Course.take (.listed arguments.length)
        definitions.courseOfAll way names arguments)
      fun buffer _ ledger => Filled (table ++ bound) buffer arguments.length arguments.length ledger := by
  apply Follows.bind (argumentBuffer_follows arguments.length)
  intro buffer _ ledger filled
  have all := evaluateAll_follows stands entering binds arguments filled (Nat.le_of_eq (Nat.zero_add _))
  rw [Nat.zero_add] at all
  exact all

theorem evaluateAll_follows (stands : code.Stands definitions table)
    (entering : Entry.Follows definitions.natives start table enter way) {scope : Scope} {names : List String}
    (binds : scope.Binds names bound) (expressions : List Expr) {buffer : Buffer Value} {count total : Nat}
    {ledger : Ledger} (filled : Filled (table ++ bound) buffer count total ledger)
    (room : count + expressions.length ≤ total) :
    Follows definitions.natives start ledger (code.evaluateAll enter scope expressions buffer)
      (definitions.courseOfAll way names expressions)
      fun buffer _ ledger => Filled (table ++ bound) buffer (count + expressions.length) total ledger := by
  cases expressions with
  | nil => exact .pure filled
  | cons e rest =>
      rw [List.length_cons] at room
      obtain ⟨values, part, length, enough, placed, given⟩ := filled
      cases given
      have first := ((evaluate_follows stands entering binds e).frame part).perm List.perm_append_comm
      unfold evaluateAll Definitions.courseOfAll
      apply Follows.bind first
      intro value _ _ ⟨_, given, taken⟩
      cases given
      cases taken
      have again : Filled (table ++ bound) buffer count total (part ++ (table ++ bound)) :=
        ⟨values, part, length, enough, placed, rfl⟩
      -- There is room for every argument from the start, so pushing one only writes, which is no act.
      apply Follows.lone ((push_follows again (by omega) value).perm List.perm_append_comm)
      intro next ledger pushed
      have others := evaluateAll_follows stands entering binds rest pushed (by omega)
      rw [Nat.add_assoc, Nat.add_comm 1] at others
      exact others

end

/-! ## Statements -/

theorem executeAll_follows (stands : code.Stands definitions table)
    (entering : Entry.Follows definitions.natives start table enter way) {scope : Scope} {names : List String}
    (binds : scope.Binds names bound) (statements : List Stmt) :
    Follows definitions.natives start (table ++ bound) (code.executeAll enter scope statements)
      (definitions.courseOfBody way names statements)
      fun outcome k ledger => Foretold outcome k ∧ ledger = table ++ bound := by
  induction statements with
  | nil => exact .pure ⟨.ok scope, rfl⟩
  | cons statement rest ih =>
      cases statement with
      | ret result =>
          cases result with
          | none => exact .pure ⟨.ok _, rfl⟩
          | some e =>
              unfold executeAll execute Definitions.courseOfBody
              rw [bind_assoc]
              apply Follows.bind (evaluate_follows stands entering binds e)
              intro value _ _ given
              cases given
              exact .pure ⟨.ok _, rfl⟩
      | declare name params body => exact .failed _ (.pure ⟨.error (.nested name), rfl⟩)
      | call function arguments =>
          have evaluated := arguments_follows stands entering binds arguments
          unfold executeAll execute Definitions.courseOfBody
          rw [bind_assoc]
          apply Follows.bind (call_follows stands entering function arguments.length evaluated)
          intro outcome _ _ ⟨foretold, given⟩
          cases given
          cases foretold with
          | error abort => exact .pure ⟨.error abort, rfl⟩
          | ok value =>
              -- A call leaves the scope as it was, so the body goes on with the same names bound.
              rw [pure_bind]
              simp only [binds.running]
              exact ih

/-! ## Functions -/

theorem activate_follows (stands : code.Stands definitions table)
    (entering : Entry.Follows definitions.natives start table enter way) :
    Entry.Follows definitions.natives start table (code.activate enter) (definitions.courseOfActivation way) := by
  intro function values length
  have sameLength : function.params.length = values.length := length.symm
  have binding : MemoryM.Triple table (Scope.empty.bindAll (function.params.zip values)) fun scope ledger =>
      ∃ bound, scope.Binds function.params bound ∧ ledger = bound ++ table := by
    apply ((Scope.fresh_triple function.params values).frame table).mono
    intro scope _ ⟨bound, held, given⟩
    refine ⟨bound, ⟨held.halted, _, held.bindings, ?_⟩, given⟩
    rw [Activation.fresh, ← List.map_uncurry_zip_eq_zipWith, List.map_map]
    exact List.map_fst_zip (Nat.le_of_eq sameLength)
  have effects : MemoryM.Effects (Arena.replay [.entered function.params])
      (Scope.empty.bindAll (function.params.zip values)) := by
    intro memory
    have lengths : (function.params.zip values).length =
        (function.params.map fun name => (name, Value.nothing)).length := by
      simp [sameLength]
    rw [Arena.replay_single]
    exact (Scope.bindAll_blind lengths rfl).effects memory
  apply Follows.bind (.onMemory [.entered function.params] binding effects fun world => .single (.entered _ world))
  intro scope _ _ ⟨bound, binds, given⟩
  cases given
  apply ((executeAll_follows stands entering binds function.body).perm List.perm_append_comm).keep
  intro outcome _ _ ⟨foretold, given⟩
  cases given
  have dropped := (List.sublist_append_left table bound).subperm
  cases foretold with
  | ok scope => exact .drop ⟨.ok scope.result, rfl⟩ dropped
  | error abort => exact .drop ⟨.error abort, rfl⟩ dropped

theorem enter_follows (stands : code.Stands definitions table) (depth : Nat) :
    Entry.Follows definitions.natives start table (code.enter depth) (definitions.courseWithin depth) := by
  induction depth with
  | zero => exact fun function values _ => .tooDeep
  | succ depth ih => exact activate_follows stands ih

theorem callEntryPoint_follows (stands : code.Stands definitions table)
    (depth : Nat) :
    Follows definitions.natives start table (code.callEntryPoint (code.enter depth)) (definitions.courseAt depth)
      fun a k ledger => Foretold a k ∧ ledger = table := by
  have none : Follows definitions.natives start (table ++ []) (argumentBuffer 0) (Course.take (.listed 0))
      fun buffer _ ledger => Filled (table ++ []) buffer 0 0 ledger := argumentBuffer_follows 0
  have calling := call_follows stands (enter_follows stands depth) entryPoint 0 none
  rw [List.append_nil] at calling
  exact calling

end Code

/-! ## Runs -/

def closingReports : Except RunError Int → List Mishap
  | .ok _ => []
  | .error error => [.failed error]

def Mishap.event (mishap : Mishap) : Event := .reported (.error mishap.message)

theorem World.closed_eq {σ : Type} (result : Except RunError Int) (world : World σ) :
    world.closed result = ⟨world.output, world.events ++ (closingReports result).map Mishap.event⟩ := by
  cases result with
  | ok exitCode => exact congrArg (World.mk world.output) (List.append_nil _).symm
  | error error =>
      rw [World.closed, RunError.message_eq]
      rfl

namespace Interpreter

variable {σ : Type} [Writer σ] {definitions : Definitions} {interpreter after : Interpreter σ}

structure Took (natives : Registry) (acts : List Act) (interpreter : Interpreter σ) (result : Except RunError Int)
    (after : Interpreter σ) (world : World σ) : Prop where
  goes : World.Goes natives acts ⟨interpreter.machine.output, []⟩ world
  shows : interpreter.machine.Shows after.machine (world.concluded result)
  replayed :
    interpreter.machine.memory.arena.outline.replay acts = some after.machine.memory.arena.outline

theorem callEntryPoint_endsBy (serves : interpreter.Serves definitions) :
    RunM.EndsBy definitions.natives interpreter.machine [] definitions.course (fun a k _ => Foretold a k)
      interpreter.machine.memory.arena.outline ⟨interpreter.machine.output, []⟩
      (interpreter.code.callEntryPoint (interpreter.code.enter interpreter.code.functions.length)
        interpreter.machine) := by
  obtain ⟨table, stands, holds⟩ := serves
  rw [← List.append_nil table] at holds
  rw [stands.functions.length_eq]
  have follows : RunM.Follows definitions.natives interpreter.machine table
      (interpreter.code.callEntryPoint (interpreter.code.enter definitions.functions.length)) definitions.course
      fun a k _ => Foretold a k :=
    (Code.callEntryPoint_follows stands _).imp fun _ _ ledger given => ⟨ledger, given.1, .refl _⟩
  exact follows [] interpreter.machine _ holds (.start _)

theorem run_took (serves : interpreter.Serves definitions) {result : Except RunError Int}
    (ended : interpreter.run = (.ok result, after)) :
    ∃ outcome k world, definitions.course.ending = some k ∧ Foretold outcome k ∧ Outcome.verdict outcome = result ∧
      definitions.callEntryPointBy (definitions.enter definitions.functions.length) ⟨interpreter.machine.output, []⟩ =
        some (outcome, world) ∧
      interpreter.Took definitions.natives definitions.course.acts result after world := by
  obtain ⟨outcome, machine, verdict, called, same⟩ := run_ended ended
  have ends := callEntryPoint_endsBy serves
  obtain ⟨table, stands, holds⟩ := serves
  rw [called] at ends
  rw [stands.functions.length_eq] at called
  obtain ⟨world, reference, shown, _⟩ := Code.callEntryPoint_ended stands holds called
  cases ends with
  | done ending given _ shows goes replayed =>
      cases same
      cases shown.unique shows
      refine ⟨outcome, _, _, ending, given, verdict, reference, goes, shows.concluded result, ?_⟩
      rw [replayed, Machine.concluded_arena]

theorem run_of_course (serves : interpreter.Serves definitions) {k : Except Abort Unit} {outline : Arena}
    (ending : definitions.course.ending = some k)
    (replayed : interpreter.machine.memory.arena.outline.replay definitions.course.acts = some outline) :
    ∃ result after, interpreter.run = (.ok result, after) := by
  have ends := callEntryPoint_endsBy serves
  rw [run_eq]
  generalize interpreter.code.callEntryPoint (interpreter.code.enter interpreter.code.functions.length)
    interpreter.machine = called at ends ⊢
  cases ends with
  | done _ _ _ _ _ _ => exact ⟨_, _, rfl⟩
  | refused none =>
      rw [replayed] at none
      cases none
  | tooDeep none =>
      rw [ending] at none
      cases none

end Interpreter

end ArenaLang
