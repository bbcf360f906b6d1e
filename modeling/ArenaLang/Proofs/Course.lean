import ArenaLang.Proofs.Accesses
import ArenaLang.Proofs.Outline
import ArenaLang.Proofs.Reference

/-!
# Courses

The course of a run is what it does, in order, values aside: which calls it makes, which lists and
scopes it lays out, which natives it performs, what goes wrong and what is reported of it. There are
no branches in the language, so the course can be told from the declarations alone. Given the course,
the outline of the arena behind the run is settled, and so are the events, but for those of natives.
-/

namespace ArenaLang

inductive Abort where
  | unresolved (name : String)
  | arity (name : String) (expected found : Nat)
  | nested (name : String)
deriving DecidableEq

def Abort.error : Abort → RunError
  | .unresolved name => .unresolved name
  | .arity name expected found => .arity name expected found
  | .nested name => .nested name

inductive Mishap where
  | unbound (name : String)
  | failed (error : RunError)
deriving DecidableEq

def Mishap.message : Mishap → String
  | .unbound name => "undefined variable '" ++ name ++ "'"
  | .failed (.unresolved name) => "unresolved function '" ++ name ++ "'"
  | .failed (.arity name expected found) =>
      "function '" ++ name ++ "' expects " ++ toString expected ++ " argument(s), got " ++ toString found
  | .failed (.nested name) =>
      "function '" ++ name ++ "' is declared inside a body; declarations are only valid at the top level"
  | .failed (.exitKind name .nothing) => "function '" ++ name ++ "' must return a number, got nothing"
  | .failed (.exitKind name .number) => "function '" ++ name ++ "' must return a number, got number"
  | .failed (.exitKind name .text) => "function '" ++ name ++ "' must return a number, got string"

theorem RunError.message_eq (error : RunError) : error.message = (Mishap.failed error).message := by
  cases error with
  | unresolved name => rfl
  | arity name expected found => rfl
  | nested name => rfl
  | exitKind name found => cases found <;> exact String.append_assoc

inductive Act where
  | called (function : String) (arguments : Nat)
  | listed (count : Nat)
  | performed (native : String) (arguments : Nat)
  | entered (params : List String)
  | failed (mishap : Mishap)
  | reported (mishap : Mishap)
deriving DecidableEq

/-- Acts in order, and what they lead to; nothing if calls are nested too deep. -/
structure Course (κ : Type) where
  acts : List Act
  ending : Option κ

namespace Course

variable {κ ι : Type}

def bind (course : Course κ) (next : κ → Course ι) : Course ι :=
  match course.ending with
  | none => ⟨course.acts, none⟩
  | some k => ⟨course.acts ++ (next k).acts, (next k).ending⟩

instance : Monad Course where
  pure k := ⟨[], some k⟩
  bind := bind

def take (act : Act) : Course Unit := ⟨[act], some ()⟩

def tooDeep : Course κ := ⟨[], none⟩

def fail (abort : Abort) : Course (Except Abort Unit) := do
  take (.failed (.failed abort.error))
  return .error abort

theorem bind_of_some {course : Course κ} {k : κ} (ends : course.ending = some k) (next : κ → Course ι) :
    course >>= next = ⟨course.acts ++ (next k).acts, (next k).ending⟩ := by
  show course.bind next = _
  rw [bind, ends]

theorem bind_of_none {course : Course κ} (cut : course.ending = none) (next : κ → Course ι) :
    course >>= next = ⟨course.acts, none⟩ := by
  show course.bind next = _
  rw [bind, cut]

theorem bind_pure (course : Course κ) : course >>= pure = course := by
  cases ends : course.ending with
  | none => rw [bind_of_none ends, ← ends]
  | some k =>
      rw [bind_of_some ends]
      show (⟨course.acts ++ [], some k⟩ : Course κ) = course
      rw [List.append_nil, ← ends]

end Course

namespace Definitions

open Course

abbrev Way := Declaration → Course (Except Abort Unit)

def courseOfCall (definitions : Definitions) (way : Way) (name : String) (count : Nat) (arguments : Course Unit) :
    Course (Except Abort Unit) :=
  match definitions.resolve name with
  | none => fail (.unresolved name)
  | some callee => do
      take (.called name count)
      match callee with
      | .native _ =>
          arguments
          take (.performed name count)
          return .ok ()
      | .declared function =>
          if function.arity = count then
            arguments
            way function
          else fail (.arity function.name function.arity count)

mutual

def courseOf (definitions : Definitions) (way : Way) (bound : List String) : Expr → Course Unit
  | .number _ | .text _ => return
  | .variable name =>
      if name ∈ bound then return
      else do
        take (.failed (.unbound name))
        take (.reported (.unbound name))
  | .call function arguments => do
      match ← definitions.courseOfCall way function arguments.length do
        take (.listed arguments.length)
        definitions.courseOfAll way bound arguments with
      | .ok () => return
      | .error abort => take (.reported (.failed abort.error))

def courseOfAll (definitions : Definitions) (way : Way) (bound : List String) : List Expr → Course Unit
  | [] => return
  | e :: rest => do
      definitions.courseOf way bound e
      definitions.courseOfAll way bound rest

end

def courseOfBody (definitions : Definitions) (way : Way) (bound : List String) :
    List Stmt → Course (Except Abort Unit)
  | [] | .ret none :: _ => return .ok ()
  | .ret (some e) :: _ => do
      definitions.courseOf way bound e
      return .ok ()
  | .declare name _ _ :: _ => fail (.nested name)
  | .call function arguments :: rest => do
      match ← definitions.courseOfCall way function arguments.length do
        take (.listed arguments.length)
        definitions.courseOfAll way bound arguments with
      | .ok () => definitions.courseOfBody way bound rest
      | .error abort => return .error abort

def courseOfActivation (definitions : Definitions) (way : Way) : Way := fun function => do
  take (.entered function.params)
  definitions.courseOfBody way function.params function.body

def courseWithin (definitions : Definitions) : Nat → Way
  | 0 => fun _ => tooDeep
  | depth + 1 => definitions.courseOfActivation (definitions.courseWithin depth)

def courseAt (definitions : Definitions) (depth : Nat) : Course (Except Abort Unit) :=
  definitions.courseOfCall (definitions.courseWithin depth) Code.entryPoint 0 (take (.listed 0))

def course (definitions : Definitions) : Course (Except Abort Unit) :=
  definitions.courseAt definitions.functions.length

end Definitions

/-! ## What acts do to an arena -/

def Act.effect : Act → Arena → Option Arena
  | .listed count => Arena.after (Buffer.withCapacity count : MemoryM (Buffer Value))
  | .entered params => Arena.after (Scope.empty.bindAll (params.map (·, .nothing)))
  | _ => some

def Arena.replay (acts : List Act) (arena : Arena) : Option Arena :=
  acts.foldlM (fun arena act => act.effect arena) arena

theorem Arena.replay_single (act : Act) (arena : Arena) : arena.replay [act] = act.effect arena := by
  rw [replay, List.foldlM_cons]
  cases act.effect arena <;> rfl

theorem Arena.replay_append (acts more : List Act) (arena : Arena) :
    arena.replay (acts ++ more) = (arena.replay acts).bind (Arena.replay more) := List.foldlM_append

/-! ## What acts do to the world -/

/-- Whether an act leads from one world to another. What a native does is up to its handler and the
values it is given. -/
inductive World.Takes {σ : Type} [Writer σ] (natives : Registry) : Act → World σ → World σ → Prop
  | called (function : String) (arguments : Nat) (world : World σ) :
      Takes natives (.called function arguments) world (world.noted (.called function arguments))
  | listed (count : Nat) (world : World σ) : Takes natives (.listed count) world world
  | performed {name : String} {native : Native} {values : List Value} {value : Value} {world after : World σ}
      (registered : natives.lookup? name = some native)
      (performs : WorldM.perform (native.handler ⟨name, values⟩) world = some (value, after)) :
      Takes natives (.performed name values.length) world after
  | entered (params : List String) (world : World σ) : Takes natives (.entered params) world world
  | failed (mishap : Mishap) (world : World σ) : Takes natives (.failed mishap) world world
  | reported (mishap : Mishap) (world : World σ) :
      Takes natives (.reported mishap) world (world.noted (.reported (.error mishap.message)))

inductive World.Goes {σ : Type} [Writer σ] (natives : Registry) : List Act → World σ → World σ → Prop
  | nil (world : World σ) : Goes natives [] world world
  | cons {act : Act} {acts : List Act} {world middle after : World σ} (first : Takes natives act world middle)
      (rest : Goes natives acts middle after) : Goes natives (act :: acts) world after

namespace World.Goes

variable {σ : Type} [Writer σ] {natives : Registry} {acts more : List Act} {world middle after : World σ}

theorem single {act : Act} (takes : World.Takes natives act world after) : World.Goes natives [act] world after :=
  .cons takes (.nil after)

theorem append (goes : World.Goes natives acts world middle) (others : World.Goes natives more middle after) :
    World.Goes natives (acts ++ more) world after := by
  induction goes with
  | nil world => exact others
  | cons first rest ih => exact .cons first (ih others)

theorem split (goes : World.Goes natives (acts ++ more) world after) :
    ∃ middle, World.Goes natives acts world middle ∧ World.Goes natives more middle after := by
  induction acts generalizing world with
  | nil => exact ⟨world, .nil world, goes⟩
  | cons act acts ih =>
      cases goes with
      | cons first rest =>
          obtain ⟨middle, before, behind⟩ := ih rest
          exact ⟨middle, .cons first before, behind⟩

end World.Goes

/-! ## What is kept -/

variable {σ : Type} [Writer σ]

/-- Whether a world has all that another one had: its events, and its output, which native functions
went on to use. -/
structure World.Keeps (natives : Registry) (before after : World σ) : Prop where
  events : before.events <+: after.events
  output : ∃ accesses, natives.Accesses accesses before.output after.output

namespace World.Keeps

variable {natives : Registry} {acts : List Act} {world middle after : World σ}

theorem trans (keeps : World.Keeps natives world middle) (more : World.Keeps natives middle after) :
    World.Keeps natives world after := by
  obtain ⟨_, first⟩ := keeps.output
  obtain ⟨_, rest⟩ := more.output
  exact ⟨keeps.events.trans more.events, _, first.trans rest⟩

theorem refl (world : World σ) : World.Keeps natives world world := ⟨List.prefix_refl _, [], .nothing _⟩

theorem noted (event : Event) (world : World σ) : World.Keeps natives world (world.noted event) :=
  ⟨List.prefix_append _ _, [], .nothing _⟩

theorem of_goes (goes : World.Goes natives acts world after) : World.Keeps natives world after := by
  induction goes with
  | nil world => exact .refl world
  | cons first rest ih =>
      apply World.Keeps.trans _ ih
      cases first with
      | called function arguments => exact .noted _ _
      | listed => exact .refl _
      | @performed name native values value world middle registered performs =>
          rw [WorldM.perform_eq, Option.some.injEq, Prod.mk.injEq] at performs
          have member : native ∈ natives.entries := List.mem_of_find?_eq_some registered
          rw [← performs.2]
          exact ⟨List.prefix_append _ _, _, .performed member ⟨name, values⟩ (.nothing _)⟩
      | entered => exact .refl _
      | failed => exact .refl _
      | reported mishap => exact .noted _ _

end World.Keeps

end ArenaLang
