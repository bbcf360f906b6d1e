import ArenaLang.Proofs.Reference
import Mathlib.Data.List.Basic

/-!
# How deep calls are nested

There are no branches in the language, so how a call ends, with a value or with which error, never
depends on values: it can be told from the declarations alone. Following calls one level deeper can
only settle more functions, and once it settles none, going deeper still is in vain. A run that ends
at all therefore ends with activations nested no deeper than there are declared functions.
-/

namespace ArenaLang

/-- How a call ends, its value aside; nothing if it goes too deep. -/
abbrev Fate := Option (Except RunError Unit)

namespace Definitions

/-! ## Fates -/

def fateOfCall (definitions : Definitions) (fate : Declaration → Fate) (name : String) (count : Nat)
    (arguments : Option Unit) : Fate :=
  match definitions.resolve name with
  | none => some (.error (.unresolved name))
  | some (.native _) => arguments.bind fun _ => some (.ok ())
  | some (.declared function) =>
      if function.arity = count then arguments.bind fun _ => fate function
      else some (.error (.arity function.name function.arity count))

mutual

def fateOf (definitions : Definitions) (fate : Declaration → Fate) : Expr → Option Unit
  | .number _ | .text _ | .variable _ => some ()
  | .call function arguments =>
      (definitions.fateOfCall fate function arguments.length (definitions.fateOfAll fate arguments)).bind
        fun _ => some ()

def fateOfAll (definitions : Definitions) (fate : Declaration → Fate) : List Expr → Option Unit
  | [] => some ()
  | e :: rest => (definitions.fateOf fate e).bind fun _ => definitions.fateOfAll fate rest

end

def fateOfBody (definitions : Definitions) (fate : Declaration → Fate) : List Stmt → Fate
  | [] => some (.ok ())
  | .ret none :: _ => some (.ok ())
  | .ret (some e) :: _ => (definitions.fateOf fate e).bind fun _ => some (.ok ())
  | .declare name _ _ :: _ => some (.error (.nested name))
  | .call function arguments :: rest =>
      (definitions.fateOfCall fate function arguments.length (definitions.fateOfAll fate arguments)).bind fun
        | .ok () => definitions.fateOfBody fate rest
        | .error error => some (.error error)

def fateWithin (definitions : Definitions) : Nat → Declaration → Fate
  | 0, _ => none
  | depth + 1, function => definitions.fateOfBody (definitions.fateWithin depth) function.body

/-! ## Steps meet their fates -/

def view {α : Type} (outcome : Except RunError α) : Except RunError Unit := outcome.map fun _ => ()

variable {σ α β κ ι : Type}

def Meets (seen : α → κ) (step : WorldM σ α) (foretold : Option κ) : Prop :=
  ∀ world, (step world).map (fun ending => seen ending.1) = foretold

section

variable {seen : α → κ} {seeing : β → ι} {step : WorldM σ α} {next : α → WorldM σ β} {foretold : Option κ}

theorem Meets.pure (a : α) : Meets (σ := σ) seen (pure a) (some (seen a)) := fun _ => rfl

theorem Meets.bind {later : κ → Option ι} (first : Meets seen step foretold)
    (second : ∀ a, Meets seeing (next a) (later (seen a))) : Meets seeing (step >>= next) (foretold.bind later) := by
  intro world
  rw [WorldM.bind_apply, ← first world]
  cases step world with
  | none => rfl
  | some ending => exact second ending.1 ending.2

theorem Meets.bind_some {k : κ} {later : Option ι} (first : Meets seen step (some k))
    (second : ∀ a, Meets seeing (next a) later) : Meets seeing (step >>= next) later := by
  have both : Meets seeing (step >>= next) ((some k).bind fun _ => later) := first.bind second
  exact both

theorem Meets.keep {seeing : β → κ} (first : Meets seen step foretold)
    (second : ∀ a, Meets seeing (next a) (some (seen a))) : Meets seeing (step >>= next) foretold := by
  have both : Meets seeing (step >>= next) (foretold.bind some) := first.bind second
  rw [Option.bind_fun_some] at both
  exact both

end

theorem note_meets (event : Event) : Meets (σ := σ) id (WorldM.note event) (some ()) := fun _ => rfl

theorem reportAll_meets (diagnostics : List Diagnostic) :
    Meets (σ := σ) id (WorldM.reportAll diagnostics) (some ()) := by
  induction diagnostics with
  | nil => exact .pure ()
  | cons d rest ih => exact (note_meets _).bind_some fun _ => ih

theorem perform_meets [Writer σ] (script : Script) :
    Meets (σ := σ) (fun _ => ()) (WorldM.perform script) (some ()) := by
  intro world
  let performance := script.run world.output
  have reporting : Meets (σ := σ) (fun _ => ())
      (do WorldM.reportAll performance.reported; return performance.value) (some ()) :=
    (reportAll_meets _).bind_some fun _ => .pure _
  exact reporting { world with output := performance.output }

variable [Writer σ] {definitions : Definitions} {enter : Entry σ} {fate : Declaration → Fate}

def Entry.Meets (enter : Entry σ) (fate : Declaration → Fate) : Prop :=
  ∀ function values, Definitions.Meets view (enter function values) (fate function)

theorem call_meets (entering : enter.Meets fate) (name : String) (count : Nat) {values : WorldM σ (List Value)}
    {arguments : Option Unit} (evaluated : Meets (fun _ => ()) values arguments) :
    Meets view (definitions.call enter name count values)
      (definitions.fateOfCall fate name count arguments) := by
  unfold call fateOfCall
  cases definitions.resolve name with
  | none => exact .pure _
  | some callee =>
      apply (note_meets _).bind_some
      intro _
      cases callee with
      | native handler =>
          apply evaluated.bind
          intro values
          exact (perform_meets _).bind_some fun value => .pure (Except.ok value : Outcome)
      | declared function =>
          simp only
          split
          · exact evaluated.bind fun values => entering function values
          · exact .pure _

mutual

theorem evaluate_meets (entering : enter.Meets fate) (activation : Activation) (e : Expr) :
    Meets (fun _ => ()) (definitions.evaluate enter activation e) (definitions.fateOf fate e) := by
  cases e with
  | number n => exact .pure _
  | text s => exact .pure _
  | «variable» name =>
      unfold evaluate fateOf
      cases activation.lookup? name with
      | some value => exact .pure value
      | none => exact (note_meets _).bind_some fun _ => .pure _
  | call function arguments =>
      unfold evaluate fateOf
      apply (call_meets entering function _ (evaluateAll_meets entering activation arguments)).bind
      rintro (error | value)
      · exact (note_meets _).bind_some fun _ => .pure _
      · exact .pure value

theorem evaluateAll_meets (entering : enter.Meets fate) (activation : Activation) (expressions : List Expr) :
    Meets (fun _ => ()) (definitions.evaluateAll enter activation expressions)
      (definitions.fateOfAll fate expressions) := by
  cases expressions with
  | nil => exact .pure _
  | cons e rest =>
      unfold evaluateAll fateOfAll
      apply (evaluate_meets entering activation e).bind
      intro value
      exact (evaluateAll_meets entering activation rest).keep fun values => .pure (value :: values)

end

theorem executeAll_meets (entering : enter.Meets fate) {activation : Activation}
    (running : activation.halted = false) (statements : List Stmt) :
    Meets view (definitions.executeAll enter activation statements)
      (definitions.fateOfBody fate statements) := by
  induction statements with
  | nil => exact .pure (Except.ok activation)
  | cons statement rest ih =>
      cases statement with
      | ret result =>
          cases result with
          | none => exact .pure (Except.ok { activation with halted := true })
          | some e =>
              unfold executeAll execute fateOfBody
              rw [bind_assoc]
              apply (evaluate_meets entering activation e).bind
              intro value
              exact .pure (Except.ok { activation with halted := true, result := value })
      | declare name params body => exact .pure (Except.error (RunError.nested name))
      | call function arguments =>
          unfold executeAll execute fateOfBody
          rw [bind_assoc]
          apply (call_meets entering function _ (evaluateAll_meets entering activation arguments)).bind
          rintro (error | value)
          · exact .pure (Except.error error)
          · rw [pure_bind]
            simp only [running]
            exact ih

theorem activate_meets (entering : enter.Meets fate) :
    Entry.Meets (definitions.activate enter) fun function => definitions.fateOfBody fate function.body := by
  intro function values
  have running : (Activation.fresh function.params values).halted = false := rfl
  apply (executeAll_meets entering running function.body).keep
  rintro (error | activation)
  · exact .pure (Except.error error)
  · exact .pure (Except.ok activation.result)

theorem enter_meets (definitions : Definitions) (depth : Nat) :
    Entry.Meets (σ := σ) (definitions.enter depth) (definitions.fateWithin depth) := by
  induction depth with
  | zero => exact fun function values world => rfl
  | succ depth ih => exact activate_meets ih

/-! ## More depth -/

def Before {κ : Type} (fate other : Option κ) : Prop := ∀ k, fate = some k → other = some k

theorem Before.refl {κ : Type} (fate : Option κ) : Before fate fate := fun _ known => known

theorem Before.bind {κ ι : Type} {fate other : Option κ} {next later : κ → Option ι} (first : Before fate other)
    (second : ∀ k, Before (next k) (later k)) : Before (fate.bind next) (other.bind later) := by
  intro i known
  obtain ⟨k, firstKnown, nextKnown⟩ := Option.bind_eq_some_iff.mp known
  rw [first k firstKnown]
  exact second k i nextKnown

section

variable {fate other : Declaration → Fate}

theorem fateOfCall_before (before : ∀ name function, definitions.resolve name = some (.declared function) →
    Before (fate function) (other function))
    (name : String) (count : Nat) {arguments others : Option Unit} (same : Before arguments others) :
    Before (definitions.fateOfCall fate name count arguments)
      (definitions.fateOfCall other name count others) := by
  unfold fateOfCall
  cases resolved : definitions.resolve name with
  | none => exact .refl _
  | some callee =>
      cases callee with
      | native handler => exact same.bind fun _ => .refl _
      | declared function =>
          simp only
          split
          · exact same.bind fun _ => before name function resolved
          · exact .refl _

mutual

theorem fateOf_before (before : ∀ name function, definitions.resolve name = some (.declared function) →
    Before (fate function) (other function))
    (e : Expr) : Before (definitions.fateOf fate e) (definitions.fateOf other e) := by
  cases e with
  | number n => exact .refl _
  | text s => exact .refl _
  | «variable» name => exact .refl _
  | call function arguments =>
      unfold fateOf
      exact (fateOfCall_before before function _ (fateOfAll_before before arguments)).bind fun _ => .refl _

theorem fateOfAll_before (before : ∀ name function, definitions.resolve name = some (.declared function) →
    Before (fate function) (other function))
    (expressions : List Expr) :
    Before (definitions.fateOfAll fate expressions) (definitions.fateOfAll other expressions) := by
  cases expressions with
  | nil => exact .refl _
  | cons e rest =>
      unfold fateOfAll
      exact (fateOf_before before e).bind fun _ => fateOfAll_before before rest

end

theorem fateOfBody_before (before : ∀ name function, definitions.resolve name = some (.declared function) →
    Before (fate function) (other function))
    (statements : List Stmt) :
    Before (definitions.fateOfBody fate statements) (definitions.fateOfBody other statements) := by
  induction statements with
  | nil => exact .refl _
  | cons statement rest ih =>
      cases statement with
      | ret result =>
          cases result with
          | none => exact .refl _
          | some e => exact (fateOf_before before e).bind fun _ => .refl _
      | declare name params body => exact .refl _
      | call function arguments =>
          apply (fateOfCall_before before function _ (fateOfAll_before before arguments)).bind
          rintro (error | _)
          · exact .refl _
          · exact ih

end

theorem fateWithin_succ (definitions : Definitions) (depth : Nat) (function : Declaration) :
    Before (definitions.fateWithin depth function) (definitions.fateWithin (depth + 1) function) := by
  induction depth generalizing function with
  | zero =>
      intro k known
      cases known
  | succ depth ih => exact fateOfBody_before (fun _ other _ => ih other) function.body

def Settled (definitions : Definitions) (depth : Nat) : Prop :=
  ∀ function ∈ definitions.functions,
    Before (definitions.fateWithin (depth + 1) function) (definitions.fateWithin depth function)

theorem Settled.succ {depth : Nat} (settled : definitions.Settled depth) : definitions.Settled (depth + 1) :=
  fun function _ => fateOfBody_before (fun _ other resolved => settled other (resolve_mem resolved)) function.body

theorem Settled.before {depth : Nat} (settled : definitions.Settled depth) {deeper : Nat} (le : depth ≤ deeper)
    {function : Declaration} (member : function ∈ definitions.functions) :
    Before (definitions.fateWithin deeper function) (definitions.fateWithin depth function) ∧
      definitions.Settled deeper := by
  induction le with
  | refl => exact ⟨.refl _, settled⟩
  | step _ ih =>
      obtain ⟨before, settledThere⟩ := ih
      exact ⟨fun k known => before k (settledThere function member k known), settledThere.succ⟩

def known (definitions : Definitions) (depth : Nat) : List Declaration :=
  definitions.functions.filter fun function => (definitions.fateWithin depth function).isSome

theorem known_sublist (definitions : Definitions) (depth : Nat) :
    (definitions.known depth).Sublist (definitions.known (depth + 1)) := by
  apply List.monotone_filter_right
  intro function isKnown
  obtain ⟨fate, known⟩ := Option.isSome_iff_exists.mp isKnown
  rw [fateWithin_succ definitions depth function fate known]
  rfl

theorem settled_of_known_length {depth : Nat}
    (same : (definitions.known (depth + 1)).length ≤ (definitions.known depth).length) :
    definitions.Settled depth := by
  intro function member fate known
  have equal := (known_sublist definitions depth).eq_of_length_le same
  have here : function ∈ definitions.known (depth + 1) := List.mem_filter.mpr ⟨member, by rw [known]; rfl⟩
  rw [← equal] at here
  obtain ⟨other, knownBefore⟩ := Option.isSome_iff_exists.mp (List.mem_filter.mp here).2
  have later := fateWithin_succ definitions depth function other knownBefore
  rw [known] at later
  rw [knownBefore, later]

/-- Every level that settles something settles one more function, of which there are only so many. -/
theorem settled_or_le_known (definitions : Definitions) (depth : Nat) :
    (∃ earlier < depth, definitions.Settled earlier) ∨ depth ≤ (definitions.known depth).length := by
  induction depth with
  | zero => exact .inr (Nat.zero_le _)
  | succ depth ih =>
      rcases ih with ⟨earlier, before, settled⟩ | bound
      · exact .inl ⟨earlier, Nat.lt_succ_of_lt before, settled⟩
      -- What is known only grows, so a level that adds nothing to its length adds nothing at all.
      · by_cases more : (definitions.known depth).length < (definitions.known (depth + 1)).length
        · exact .inr (by omega)
        · exact .inl ⟨depth, Nat.lt_succ_self depth, settled_of_known_length (Nat.not_lt.mp more)⟩

theorem settled (definitions : Definitions) : definitions.Settled definitions.functions.length := by
  rcases settled_or_le_known definitions (definitions.functions.length + 1) with ⟨earlier, before, settled⟩ | bound
  · intro function member
    exact (settled.before (Nat.le_of_lt_succ before) member).2 function member
  · have few := List.length_filter_le (fun function =>
      (definitions.fateWithin (definitions.functions.length + 1) function).isSome) definitions.functions
    exact absurd bound (by unfold known; omega)

theorem enter_deepens (definitions : Definitions) (depth : Nat) :
    definitions.Deepens (definitions.enter (σ := σ) depth) (definitions.enter definitions.functions.length) := by
  intro function member values world ending ends
  rcases Nat.le_total depth definitions.functions.length with shallow | deep
  · exact enter_mono definitions shallow function member values world ending ends
  · -- The fate is settled at the bound, so the call ends there too; going deeper keeps that end.
    have foretold := enter_meets (σ := σ) definitions depth function values world
    rw [ends] at foretold
    have fate := (definitions.settled.before deep member).1 _ foretold.symm
    have reached := enter_meets (σ := σ) definitions definitions.functions.length function values world
    rw [fate] at reached
    obtain ⟨other, otherEnds, _⟩ := Option.map_eq_some_iff.mp reached
    have again := enter_mono definitions deep function member values world other otherEnds
    rw [ends] at again
    rw [otherEnds, again]

end Definitions

theorem Program.ends_iff {program : Program} {natives : Registry} {σ : Type} [Writer σ] {output : σ}
    {result : Except RunError Int} {world : World σ} :
    program.Ends natives output result world ↔
      (program.definitions natives).runWithin program.declarations.length (program.world natives output) =
        some (result, world) := by
  constructor
  · rintro ⟨depth, ends⟩
    exact Definitions.runWithin_within (Definitions.enter_deepens _ depth).resolved _ _ ends
  · intro ends
    exact ⟨_, ends⟩

end ArenaLang
