import ArenaLang.Native.Print
import ArenaLang.OutputStream
import ArenaLang.Proofs.Runs
import Mathlib.Logic.Relation

namespace ArenaLang

def Stmt.ends : Stmt → Bool
  | .call _ _ => false
  | _ => true

def Stmt.live : List Stmt → List Stmt
  | [] => []
  | statement :: rest => if statement.ends then [statement] else statement :: live rest

theorem Stmt.live_append_ends {last : Stmt} (ends : last.ends = true) (before behind : List Stmt) :
    live (before ++ last :: behind) = live (before ++ [last]) := by
  induction before with
  | nil => simp [live, ends]
  | cons statement before ih => simp only [List.cons_append, live, ih]

def Declaration.live (function : Declaration) : Declaration := { function with body := Stmt.live function.body }

def Callee.live : Callee → Callee
  | .native handler => .native handler
  | .declared function => .declared function.live

namespace Definitions

variable {σ : Type} [Writer σ] {definitions others : Definitions}

/-- Whether every name is resolved alike: to the same handler, to declarations of the same
parameters and live code, or to nothing. -/
def Alike (definitions others : Definitions) : Prop :=
  ∀ name, (definitions.resolve name).map Callee.live = (others.resolve name).map Callee.live

omit [Writer σ] in
theorem Alike.symm (alike : definitions.Alike others) : others.Alike definitions := fun name => (alike name).symm

omit [Writer σ] in
theorem Alike.resolved {shallow deep : Entry σ} (alike : definitions.Alike others)
    (entering : ∀ function other : Declaration, function.live = other.live → ∀ values,
      WorldM.Within (shallow function values) (deep other values)) :
    definitions.Matches others shallow deep := by
  intro name
  have same := alike name
  cases found : definitions.resolve name with
  | none =>
      rw [found, Option.map_none] at same
      rw [Option.map_eq_none_iff.mp same.symm]
      exact .missing
  | some callee =>
      rw [found, Option.map_some] at same
      obtain ⟨other, resolved, live⟩ := Option.map_eq_some_iff.mp same.symm
      rw [resolved]
      cases callee with
      | native handler =>
          cases other with
          | native another => cases live; exact .native _
          | declared function => cases live
      | declared function =>
          cases other with
          | native another => cases live
          | declared another =>
              have alive : function.live = another.live := Callee.declared.inj live.symm
              obtain ⟨names, params, _⟩ := Declaration.mk.inj alive
              exact .declared names (congrArg List.length params) (entering function another alive)

/-- What stands behind the end of a body is not executed. -/
theorem executeAll_live (definitions : Definitions) (enter : Entry σ) (activation : Activation)
    (statements : List Stmt) :
    definitions.executeAll enter activation (Stmt.live statements) =
      definitions.executeAll enter activation statements := by
  induction statements generalizing activation with
  | nil => rfl
  | cons statement rest ih =>
      cases statement with
      | ret result =>
          cases result with
          | none => rfl
          | some e =>
              simp only [Stmt.live, Stmt.ends, if_true, executeAll, execute, bind_assoc, pure_bind]
      | call function arguments =>
          unfold Stmt.live Stmt.ends executeAll
          simp only [Bool.false_eq_true, if_false, ih]
      | declare name params body => rfl

theorem enter_alike (alike : definitions.Alike others) (depth : Nat) {function other : Declaration}
    (live : function.live = other.live) (values : List Value) :
    WorldM.Within (definitions.enter (σ := σ) depth function values) (others.enter depth other values) := by
  induction depth generalizing function other values with
  | zero => exact .refl _
  | succ depth ih =>
      obtain ⟨_, params, body⟩ := Declaration.mk.inj live
      unfold enter activate
      rw [← executeAll_live definitions, ← executeAll_live others, params, body]
      exact (executeAll_within (alike.resolved fun _ _ => ih) _ _).bind fun _ => .refl _

/-- Going deeper than there are functions changes nothing, not even whether the run ends. -/
theorem runWithin_eq_of_le (definitions : Definitions) {depth : Nat} (enough : definitions.functions.length ≤ depth) :
    definitions.runWithin (σ := σ) depth = definitions.runWithin definitions.functions.length := by
  funext world
  have back := runWithin_within (enter_deepens (σ := σ) definitions depth).resolved world
  have forth := runWithin_within (enter_mono (σ := σ) definitions enough).resolved world
  exact Option.ext fun ending => ⟨back ending, forth ending⟩

theorem runWithin_alike (alike : definitions.Alike others) (depth : Nat) :
    definitions.runWithin (σ := σ) depth = others.runWithin depth := by
  funext world
  have forth := runWithin_within (σ := σ) (alike.resolved fun _ _ => enter_alike alike depth) world
  have back := runWithin_within (σ := σ) (alike.symm.resolved fun _ _ => enter_alike alike.symm depth) world
  exact Option.ext fun ending => ⟨forth ending, back ending⟩

theorem runWithin_length_alike (alike : definitions.Alike others) :
    definitions.runWithin (σ := σ) definitions.functions.length = others.runWithin others.functions.length := by
  let depth := max definitions.functions.length others.functions.length
  calc definitions.runWithin definitions.functions.length
    _ = definitions.runWithin depth := (definitions.runWithin_eq_of_le (Nat.le_max_left _ _)).symm
    _ = others.runWithin depth := runWithin_alike alike depth
    _ = others.runWithin others.functions.length := others.runWithin_eq_of_le (Nat.le_max_right _ _)

end Definitions

/-! ## Revisions -/

/-- Changes of a program and its registry that no name resolution and no live code shows. -/
inductive Revision : Program × Registry → Program × Registry → Prop
  | reordered {program other : Program} {natives : Registry}
      (same : ∀ name, program.declarations.filter (·.name == name) = other.declarations.filter (·.name == name)) :
      Revision (program, natives) (other, natives)
  | duplicateDropped {front middle back : Program} {name : String} {params others : List String}
      {body another : List Stmt} {natives : Registry} :
      Revision (front ++ .declare name params body :: (middle ++ .declare name others another :: back), natives)
        (front ++ .declare name params body :: (middle ++ back), natives)
  | shadowedDropped {front back : Program} {name : String} {params : List String} {body : List Stmt}
      {natives : Registry} (shadowed : (natives.lookup? name).isSome) :
      Revision (front ++ .declare name params body :: back, natives) (front ++ back, natives)
  | statementDropped {front back : Program} {statement : Stmt} {natives : Registry}
      (idle : statement.declared? = none) : Revision (front ++ statement :: back, natives) (front ++ back, natives)
  | registeredAgain {program : Program} {natives : Registry} {name : String} {handler : Handler}
      (known : (natives.lookup? name).isSome) : Revision (program, natives) (program, natives.register name handler)
  | bodyPruned {front back : Program} {name : String} {params : List String} {before behind : List Stmt}
      {last : Stmt} {natives : Registry} (ends : last.ends = true) :
      Revision (front ++ .declare name params (before ++ last :: behind) :: back, natives)
        (front ++ .declare name params (before ++ [last]) :: back, natives)

namespace Definitions

theorem alike_of_find? {natives : Registry} {functions others : List Declaration}
    (same : ∀ name, natives.lookup? name = none →
      (functions.find? (·.name == name)).map Declaration.live = (others.find? (·.name == name)).map Declaration.live) :
    Alike ⟨functions, natives⟩ ⟨others, natives⟩ := by
  intro name
  unfold resolve
  cases found : natives.lookup? name with
  | some native => rfl
  | none =>
      have live (function? : Option Declaration) :
          (function?.map Callee.declared).map Callee.live = (function?.map Declaration.live).map .declared := by
        rw [Option.map_map, Option.map_map]
        rfl
      simp only [live, same name found]

theorem find?_live_congr {front back : List Declaration} {function other : Declaration}
    (live : function.live = other.live) (name : String) :
    ((front ++ function :: back).find? (·.name == name)).map Declaration.live =
      ((front ++ other :: back).find? (·.name == name)).map Declaration.live := by
  obtain ⟨names, _, _⟩ := Declaration.mk.inj live
  simp only [List.find?_append, List.find?_cons, names]
  split
  · cases front.find? (·.name == name) with
    | none => exact congrArg some live
    | some found => rfl
  · rfl

end Definitions

theorem Program.declarations_append (front back : Program) :
    declarations (front ++ back) = front.declarations ++ back.declarations := List.filterMap_append

theorem Program.declarations_declare (name : String) (params : List String) (body : List Stmt) (rest : Program) :
    declarations (.declare name params body :: rest) = ⟨name, params, body⟩ :: rest.declarations := rfl

theorem Registry.lookup?_register_known {natives : Registry} {name : String} (known : (natives.lookup? name).isSome)
    (handler : Handler) (query : String) : (natives.register name handler).lookup? query = natives.lookup? query := by
  have split : (natives.register name handler).lookup? query =
      (natives.lookup? query).or ([⟨name, handler⟩].find? fun native : Native => native.name == query) :=
    List.find?_append
  rw [split]
  by_cases same : name = query
  · subst same
    obtain ⟨native, found⟩ := Option.isSome_iff_exists.mp known
    rw [found, Option.some_or]
  · rw [List.find?_cons_of_neg (by simpa using same), List.find?_nil, Option.or_none]

theorem Revision.alike {first second : Program × Registry} (revision : Revision first second) :
    (first.1.definitions first.2).Alike (second.1.definitions second.2) := by
  cases revision with
  | reordered same =>
      apply Definitions.alike_of_find?
      intro name _
      rw [← List.head?_filter, ← List.head?_filter, same name]
  | @duplicateDropped front middle back name =>
      apply Definitions.alike_of_find?
      intro query _
      simp only [Program.declarations_append, Program.declarations_declare, List.find?_append, List.find?_cons]
      cases name == query <;> rfl
  | @shadowedDropped front back name params body natives shadowed =>
      apply Definitions.alike_of_find?
      -- The dropped name is a native's, so no name that reaches the declarations is it.
      intro query unknown
      have differs : (name == query) = false := by
        rw [beq_eq_false_iff_ne]
        rintro rfl
        rw [unknown] at shadowed
        cases shadowed
      simp only [Program.declarations_append, Program.declarations_declare, List.find?_append, List.find?_cons, differs]
  | @statementDropped front back statement natives idle =>
      have same : Program.declarations (front ++ statement :: back) = Program.declarations (front ++ back) := by
        rw [Program.declarations_append, Program.declarations_append, Program.declarations,
          Program.declarations, Program.declarations, List.filterMap_cons_none idle]
      intro name
      unfold Program.definitions
      rw [same]
  | registeredAgain known =>
      intro name
      unfold Definitions.resolve Program.definitions
      simp only [Registry.lookup?_register_known known]
  | bodyPruned ends =>
      apply Definitions.alike_of_find?
      intro query _
      simp only [Program.declarations_append, Program.declarations_declare]
      apply Definitions.find?_live_congr
      simp only [Declaration.live, Stmt.live_append_ends ends]

theorem Revision.alike_of_eqvGen {first second : Program × Registry} (revised : Relation.EqvGen Revision first second) :
    (first.1.definitions first.2).Alike (second.1.definitions second.2) := by
  induction revised with
  | rel _ _ revision => exact revision.alike
  | refl _ => exact fun name => rfl
  | symm _ _ _ ih => exact ih.symm
  | trans _ _ _ _ _ ih ih' => exact fun name => (ih name).trans (ih' name)

/-! ## Two runs -/

/-- Programs that resolve every name alike, revisions of each other among them, end alike, at
whatever depth, and their runs over a writer of one state, if none is refused memory, give the same
result and show the same: output, diagnostics and calls. -/
theorem runs_of_live_code {σ : Type} [Writer σ] {program other : Program} {natives others : Registry}
    {first second : Interpreter σ}
    (related : (program.definitions natives).Alike (other.definitions others) ∨
      Relation.EqvGen Revision (program, natives) (other, others))
    (serves : first.Serves (program.definitions natives)) (serving : second.Serves (other.definitions others))
    (same : first.machine.output = second.machine.output) :
    (∀ (world : World σ) ending,
      (∃ depth, (program.definitions natives).runWithin depth world = some ending) ↔
        ∃ depth, (other.definitions others).runWithin depth world = some ending) ∧
      ((∃ refusal, first.run.1 = .error (.memory (.refused refusal)) ∨
          second.run.1 = .error (.memory (.refused refusal))) ∨
        (first.run.1 = .error .nestedTooDeep ∧ second.run.1 = .error .nestedTooDeep) ∨
        ∃ result world, first.run.1 = .ok result ∧ second.run.1 = .ok result ∧
          first.machine.Shows first.run.2.machine world ∧ second.machine.Shows second.run.2.machine world) := by
  have alike : (program.definitions natives).Alike (other.definitions others) :=
    related.elim id Revision.alike_of_eqvGen
  refine ⟨fun world ending => ?_, ?_⟩
  · simp only [Definitions.runWithin_alike alike]
  · obtain ⟨table, stands, holds⟩ := serves
    obtain ⟨ledger, standing, held⟩ := serving
    rw [← List.append_nil table] at holds
    rw [← List.append_nil ledger] at held
    have ends := Interpreter.run_endsLike stands holds (.start first.machine)
    have ending := Interpreter.run_endsLike standing held (.start second.machine)
    rw [Definitions.runWithin_length_alike alike, same] at ends
    generalize (other.definitions others).runWithin _ (⟨second.machine.output, []⟩ : World σ) = answer at ends ending
    generalize first.run = run at ends ⊢
    generalize second.run = another at ending ⊢
    rcases run with ⟨value, after⟩
    rcases another with ⟨given, behind⟩
    cases ends with
    | refused _ => exact .inl ⟨_, .inl rfl⟩
    | tooDeep _ =>
        cases ending with
        | refused _ => exact .inl ⟨_, .inr rfl⟩
        | tooDeep _ => exact .inr (.inl ⟨rfl, rfl⟩)
    | done equal _ shows =>
        cases ending with
        | refused _ => exact .inl ⟨_, .inr rfl⟩
        | done equally _ shown => exact .inr (.inr ⟨_, _, congrArg _ equal, congrArg _ equally, shows, shown⟩)

/-- A program that declares `print` for itself and goes on behind a return, and what is left of it
for a registry with two functions of that name. -/
theorem runs_of_live_code_pruned :
    let shadowed : Stmt := .declare "print" [] []
    let greet : Stmt := .call "print" [.text "a"]
    let leave : Stmt := .ret (some (.number .zero))
    let program : Program := [shadowed, .declare "main" [] [greet, leave, .call "g" []]]
    let other : Program := [.declare "main" [] [greet, leave]]
    let others := Registry.standard.register "print" fun _ => .done .nothing
    Relation.EqvGen Revision (program, .standard) (other, others) ∧
      ∃ first second, Interpreter.create .small OutputStream.unbounded .collecting .standard program = .ok first ∧
        Interpreter.create .small OutputStream.unbounded .passing others other = .ok second ∧
        ∃ result world, first.run.1 = .ok result ∧ second.run.1 = .ok result ∧
          first.machine.Shows first.run.2.machine world ∧ second.machine.Shows second.run.2.machine world := by
  intro shadowed greet leave program other others
  have pruned : Revision ([shadowed] ++ .declare "main" [] ([greet] ++ leave :: [.call "g" []]) :: [], .standard)
      ([shadowed] ++ .declare "main" [] ([greet] ++ [leave]) :: [], .standard) := .bodyPruned rfl
  have dropped : Revision ([] ++ shadowed :: other, .standard) ([] ++ other, .standard) :=
    .shadowedDropped (by decide)
  have revised : Relation.EqvGen Revision (program, .standard) (other, others) :=
    (Relation.EqvGen.rel _ _ pruned).trans _ _ _
      ((Relation.EqvGen.rel _ _ dropped).trans _ _ _ (.rel _ _ (.registeredAgain (by decide))))
  refine ⟨revised, ?_⟩
  have works : ((Interpreter.create .small OutputStream.unbounded .collecting .standard program).toOption.bind
      fun first => (Interpreter.create .small OutputStream.unbounded .passing others other).toOption.bind
        fun second => first.run.1.toOption.bind fun _ => second.run.1.toOption).isSome = true := by
    decide +kernel
  have sound := (Memory.create_holds System.paged_sound Memory.small_created).sound
  obtain ⟨first, created, works⟩ := exists_ok_of_bind works
  obtain ⟨second, made, works⟩ := exists_ok_of_bind works
  have start : first.machine.output = second.machine.output :=
    (Interpreter.create_fresh created).2.trans (Interpreter.create_fresh made).2.symm
  obtain ⟨_, ⟨refusal, refused | refused⟩ | ⟨deep, _⟩ | ⟨result, world, agree⟩⟩ :=
    runs_of_live_code (.inr revised) (Interpreter.create_serves sound created)
      (Interpreter.create_serves sound made) start
  · simp [refused, Except.toOption] at works
  · simp [refused, Except.toOption] at works
  · simp [deep, Except.toOption] at works
  · exact ⟨first, second, created, made, result, world, agree⟩

end ArenaLang
