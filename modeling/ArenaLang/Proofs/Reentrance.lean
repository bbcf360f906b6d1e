import ArenaLang.Proofs.Lockstep
import Mathlib.Data.List.Dedup

/-!
# Entering a function again

A run that enters a function while an activation of it is in progress does not end: the second
activation does what the first did, whatever values it is given. `Code.enterIdle` enters idle
functions only and stops the run where another one is entered, so a run never enters a function
again if it does not stop there. It needs no bound on the depth, for there are only so many
functions to be idle; hence a run that ends is nested no deeper than that.
-/

namespace ArenaLang

/-! ## Going deeper -/

namespace RunM

variable {σ α β : Type}

def Within (step deeper : RunM σ α) : Prop :=
  ∀ machine, (step machine).1 ≠ .error .nestedTooDeep → deeper machine = step machine

theorem Within.refl (step : RunM σ α) : Within step step := fun _ _ => rfl

theorem within_iff {step deeper : RunM σ α} :
    Within step deeper ↔ Lockstep (· = .nestedTooDeep) Eq step deeper := by
  constructor
  · rintro within machine _ rfl whole
    rw [within machine (whole _ rfl)]
    exact ⟨rfl, rfl⟩
  · intro together machine ends
    obtain ⟨same, still⟩ := together machine machine rfl fun stop cut => cut ▸ ends
    exact (Prod.ext same still).symm

end RunM

namespace Code

variable {σ : Type} {code : Code} {shallow deep : Code.Entry σ}

open RunM

def Deepens (shallow deep : Code.Entry σ) : Prop :=
  ∀ function values, Within (shallow function values) (deep function values)

variable [Writer σ]

omit [Writer σ] in
theorem deepens_iff : Deepens shallow deep ↔ shallow.Lockstep (· = .nestedTooDeep) Eq deep := by
  simp only [Deepens, Entry.Lockstep, within_iff]

theorem activate_within (deeper : Deepens shallow deep) : Deepens (code.activate shallow) (code.activate deep) :=
  deepens_iff.mpr (activate_lockstep (.eq _ _) (deepens_iff.mp deeper))

theorem enter_succ (code : Code) (depth : Nat) :
    Deepens (code.enter (σ := σ) depth) (code.enter (depth + 1)) := by
  induction depth with
  | zero => exact fun _ _ _ ends => absurd rfl ends
  | succ depth ih => exact activate_within ih

theorem enter_mono (code : Code) {depth deeper : Nat} (le : depth ≤ deeper) :
    Deepens (code.enter (σ := σ) depth) (code.enter deeper) := by
  induction le with
  | refl => exact fun _ _ => .refl _
  | step _ ih =>
      intro function values machine ends
      have same := ih function values machine ends
      rw [← same] at ends ⊢
      exact enter_succ code _ function values machine ends

end Code

/-! ## Idle functions -/

theorem length_erase_lt {name : String} {idle : List String} (member : name ∈ idle) :
    (idle.erase name).length < idle.length := by
  rw [← List.length_erase_add_one member]
  exact Nat.lt_succ_self _

namespace Code

variable {σ : Type} [Writer σ] {code : Code} {definitions : Definitions} {start : Machine σ} {table : Ledger}

def enterIdle (code : Code) (idle : List String) (function : Declaration) (values : List Value) : RunM σ Outcome :=
  if _ : function.name ∈ idle then
    code.activate (fun other => code.enterIdle (idle.erase function.name) other) function values
  else throw .nestedTooDeep
termination_by idle.length
decreasing_by exact length_erase_lt ‹_›

theorem enterIdle_deepens (code : Code) (idle : List String) :
    Deepens (code.enterIdle (σ := σ) idle) (code.enter idle.length) := by
  intro function values
  rw [enterIdle]
  split
  · rename_i member
    rw [← List.length_erase_add_one member]
    exact activate_within (enterIdle_deepens code (idle.erase function.name)) function values
  · exact fun machine ends => absurd rfl ends
termination_by idle.length
decreasing_by exact length_erase_lt ‹_›

end Code

namespace Definitions

variable {σ : Type} [Writer σ] {definitions : Definitions}

def enterIdle (definitions : Definitions) (idle : List String) (function : Declaration) (values : List Value) :
    WorldM σ Outcome :=
  if _ : function.name ∈ idle then
    definitions.activate (fun other => definitions.enterIdle (idle.erase function.name) other) function values
  else fun _ => none
termination_by idle.length
decreasing_by exact length_erase_lt ‹_›

def fateIdle (definitions : Definitions) (idle : List String) (function : Declaration) : Fate :=
  if _ : function.name ∈ idle then
    definitions.fateOfBody (fun other => definitions.fateIdle (idle.erase function.name) other) function.body
  else none
termination_by idle.length
decreasing_by exact length_erase_lt ‹_›

theorem enterIdle_meets (definitions : Definitions) (idle : List String) :
    Entry.Meets (σ := σ) (definitions.enterIdle idle) (definitions.fateIdle idle) := by
  intro function values
  rw [enterIdle, fateIdle]
  split
  · exact activate_meets (enterIdle_meets definitions (idle.erase function.name)) function values
  · exact fun world => rfl
termination_by idle.length
decreasing_by exact length_erase_lt ‹_›

end Definitions

theorem Code.enterIdle_agree {σ : Type} [Writer σ] {code : Code} {definitions : Definitions} {start : Machine σ}
    {table : Ledger} (stands : code.Stands definitions table) (idle : List String) :
    Entry.Agrees start table (code.enterIdle idle) (definitions.enterIdle idle) := by
  intro function values
  rw [enterIdle, Definitions.enterIdle]
  split
  · exact activate_agree stands (enterIdle_agree stands (idle.erase function.name)) function values
  · exact .tooDeep
termination_by idle.length
decreasing_by exact length_erase_lt ‹_›

/-! ## Functions whose fate is known -/

namespace Definitions

variable {definitions : Definitions}

/-- The names of the functions that can be entered: each name once, and none that a native has. -/
def enterable (definitions : Definitions) : List String :=
  (definitions.functions.map Declaration.name).dedup.filter fun name => (definitions.natives.lookup? name).isNone

theorem length_enterable_le (definitions : Definitions) :
    definitions.enterable.length ≤ definitions.functions.length := by
  have distinct := (List.dedup_sublist (definitions.functions.map Declaration.name)).length_le
  rw [List.length_map] at distinct
  exact Nat.le_trans (List.length_filter_le _ _) distinct

theorem resolve_name {name : String} {function : Declaration}
    (resolved : definitions.resolve name = some (.declared function)) :
    function.name = name ∧ (definitions.natives.lookup? name).isNone := by
  unfold resolve at resolved
  split at resolved
  · cases resolved
  · rename_i unknown
    obtain ⟨found, searched, same⟩ := Option.map_eq_some_iff.mp resolved
    cases same
    have matched := List.find?_some searched
    exact ⟨by simpa using matched, by simp [unknown]⟩

theorem mem_enterable {name : String} {function : Declaration}
    (resolved : definitions.resolve name = some (.declared function)) : function.name ∈ definitions.enterable := by
  obtain ⟨same, unknown⟩ := resolve_name resolved
  have listed : function.name ∈ definitions.functions.map Declaration.name :=
    List.mem_map_of_mem (resolve_mem resolved)
  exact List.mem_filter.mpr ⟨List.mem_dedup.mpr listed, same ▸ unknown⟩

/-- A function is known at a greater depth than those that it enters, so none of them is itself. -/
theorem fateIdle_of_fateWithin {depth : Nat} {name : String} {function : Declaration} {fate : Except RunError Unit}
    (resolved : definitions.resolve name = some (.declared function))
    (known : definitions.fateWithin depth function = some fate) {idle : List String}
    (free : ∀ label other, definitions.resolve label = some (.declared other) →
      (definitions.fateWithin depth other).isSome → other.name ∈ idle) :
    definitions.fateIdle idle function = some fate := by
  induction depth generalizing name function fate idle with
  | zero => cases known
  | succ depth ih =>
      have before : ∀ label other, definitions.resolve label = some (.declared other) →
          (definitions.fateWithin depth other).isSome → other.name ∈ idle := by
        intro label other found isKnown
        obtain ⟨early, knownEarly⟩ := Option.isSome_iff_exists.mp isKnown
        exact free label other found (by rw [fateWithin_succ definitions depth other early knownEarly]; rfl)
      cases early : definitions.fateWithin depth function with
      | some other =>
          have same := fateWithin_succ definitions depth function other early
          rw [known] at same
          rw [same]
          exact ih resolved early before
      | none =>
          -- Nothing that is known at the depth below has this name, so the name can be given up there.
          have member : function.name ∈ idle := free name function resolved (by rw [known]; rfl)
          rw [fateIdle, dif_pos member]
          refine fateOfBody_before ?_ function.body fate known
          intro label other found k knownThere
          refine ih found knownThere ?_
          intro third another foundThird isKnown
          have apart : another.name ≠ function.name := by
            intro same
            rw [← (resolve_name foundThird).1, same, (resolve_name resolved).1, resolved] at foundThird
            cases foundThird
            rw [early] at isKnown
            cases isKnown
          exact (List.mem_erase_of_ne apart).mpr (before third another foundThird isKnown)

theorem fateOfCall_idle {depth : Nat} {fate : Except RunError Unit}
    (known : definitions.fateOfCall (definitions.fateWithin depth) Code.entryPoint 0 (some ()) = some fate) :
    definitions.fateOfCall (definitions.fateIdle definitions.enterable) Code.entryPoint 0 (some ()) = some fate := by
  refine fateOfCall_before ?_ _ 0 (.refl _) fate known
  intro name function resolved fate known
  exact fateIdle_of_fateWithin resolved known fun _ _ found _ => mem_enterable found

end Definitions

/-! ## Runs that end -/

inductive Fate.Settles (fate : Fate) : Except Stop Outcome → Prop
  | ended {outcome : Outcome} (foretold : fate = some (Definitions.view outcome)) : Settles fate (.ok outcome)
  | tooDeep (foretold : fate = none) : Settles fate (.error .nestedTooDeep)
  | refused {refusal : Refusal} : Settles fate (.error (.memory (.refused refusal)))

namespace Code

variable {σ : Type} [Writer σ] {code : Code} {definitions : Definitions} {machine : Machine σ} {table : Ledger}
  {enter : Code.Entry σ} {plain : Definitions.Entry σ} {fate : Declaration → Fate}

theorem callEntryPoint_settles (stands : code.Stands definitions table) (holds : machine.memory.Holds table)
    (entering : Entry.Agrees machine table enter plain) (meets : plain.Meets fate) :
    (definitions.fateOfCall fate entryPoint 0 (some ())).Settles (code.callEntryPoint enter machine).1 := by
  rw [← List.append_nil table] at holds
  have ends := callEntryPoint_agree stands entering [] machine ⟨machine.output, []⟩ holds (.start machine)
  have calling : Definitions.Meets Definitions.view (definitions.call plain entryPoint 0 (pure []))
      (definitions.fateOfCall fate entryPoint 0 (some ())) := Definitions.call_meets meets entryPoint 0 (.pure [])
  have foretold := calling ⟨machine.output, []⟩
  rw [← callEntryPoint] at ends
  rw [← foretold]
  generalize code.callEntryPoint enter machine = result at ends
  generalize definitions.call plain entryPoint 0 (pure []) ⟨machine.output, []⟩ = ending at ends
  cases ends with
  | done given _ _ =>
      obtain ⟨rfl, _⟩ := given
      exact .ended rfl
  | refused _ => exact .refused
  | tooDeep _ => exact .tooDeep rfl

theorem callEntryPoint_within {shallow deep : Code.Entry σ} (deeper : Deepens shallow deep) :
    RunM.Within (code.callEntryPoint shallow) (code.callEntryPoint deep) :=
  RunM.within_iff.mpr (call_lockstep (.eq _ _) (deepens_iff.mp deeper) entryPoint 0 (.refl _))

theorem callEntryPoint_enterIdle (stands : code.Stands definitions table) (holds : machine.memory.Holds table)
    {depth : Nat} {outcome : Outcome} (ended : (code.callEntryPoint (code.enter depth) machine).1 = .ok outcome) :
    (code.callEntryPoint (code.enterIdle definitions.enterable) machine).1 ≠ .error .nestedTooDeep := by
  intro cut
  have settles := callEntryPoint_settles stands holds (enter_agree stands depth)
    (Definitions.enter_meets definitions depth)
  have watched := callEntryPoint_settles stands holds (enterIdle_agree stands definitions.enterable)
    (Definitions.enterIdle_meets definitions definitions.enterable)
  rw [ended] at settles
  cases settles with
  | ended foretold =>
      rw [cut, Definitions.fateOfCall_idle foretold] at watched
      cases watched with
      | tooDeep none => cases none

theorem callEntryPoint_eq (stands : code.Stands definitions table) (holds : machine.memory.Holds table)
    {depth limit : Nat} {outcome : Outcome}
    (ended : (code.callEntryPoint (code.enter depth) machine).1 = .ok outcome)
    (room : definitions.enterable.length ≤ limit) :
    code.callEntryPoint (code.enter limit) machine = code.callEntryPoint (code.enter depth) machine := by
  have idle := callEntryPoint_enterIdle stands holds ended
  have most := callEntryPoint_within (enterIdle_deepens code definitions.enterable) machine idle
  rw [← most] at idle
  have atLimit := callEntryPoint_within (enter_mono code room) machine idle
  rw [← atLimit] at idle
  have notCut : (code.callEntryPoint (code.enter depth) machine).1 ≠ .error .nestedTooDeep := by
    simp [ended]
  have fromLimit := callEntryPoint_within (enter_mono code (Nat.le_max_right depth limit)) machine idle
  have fromDepth := callEntryPoint_within (enter_mono code (Nat.le_max_left depth limit)) machine notCut
  exact fromLimit.symm.trans fromDepth

end Code

namespace Interpreter

variable {σ : Type} [Writer σ] {definitions : Definitions} {interpreter : Interpreter σ} {depth : Nat}

theorem runWithin_eq_ok_iff {code : Code} {machine : Machine σ} :
    (∃ result, (runWithin depth code machine).1 = .ok result) ↔
      ∃ outcome, (code.callEntryPoint (code.enter depth) machine).1 = .ok outcome := by
  rw [runWithin_apply]
  rcases code.callEntryPoint (code.enter depth) machine with ⟨stop | outcome, after⟩ <;> simp

theorem runWithin_eq_error_iff {code : Code} {machine : Machine σ} {stop : Stop} :
    (runWithin depth code machine).1 = .error stop ↔
      (code.callEntryPoint (code.enter depth) machine).1 = .error stop := by
  rw [runWithin_apply]
  rcases code.callEntryPoint (code.enter depth) machine with ⟨stop | outcome, after⟩ <;> simp

theorem runWithin_eq (serves : interpreter.Serves definitions)
    (ended : ∃ result, (runWithin depth interpreter.code interpreter.machine).1 = .ok result) {limit : Nat}
    (room : definitions.enterable.length ≤ limit) :
    runWithin limit interpreter.code interpreter.machine =
      runWithin depth interpreter.code interpreter.machine := by
  obtain ⟨table, stands, holds⟩ := serves
  obtain ⟨outcome, called⟩ := runWithin_eq_ok_iff.mp ended
  rw [runWithin_apply, runWithin_apply, Code.callEntryPoint_eq stands holds called room]

/-- The call of the entry point, stopped where it enters a function that is not idle. -/
def callIdle (definitions : Definitions) (interpreter : Interpreter σ) : Except Stop Outcome :=
  (interpreter.code.callEntryPoint (interpreter.code.enterIdle definitions.enterable) interpreter.machine).1

theorem exists_runWithin_iff (serves : interpreter.Serves definitions)
    (accepted : ∀ refusal, interpreter.callIdle definitions ≠ .error (.memory (.refused refusal))) :
    (∃ depth result, (runWithin depth interpreter.code interpreter.machine).1 = .ok result) ↔
      interpreter.callIdle definitions ≠ .error .nestedTooDeep := by
  obtain ⟨table, stands, holds⟩ := serves
  constructor
  · rintro ⟨depth, ended⟩
    obtain ⟨outcome, called⟩ := runWithin_eq_ok_iff.mp ended
    exact Code.callEntryPoint_enterIdle stands holds called
  · intro idle
    have most := Code.callEntryPoint_within (interpreter.code.enterIdle_deepens definitions.enterable) _ idle
    have settles : Fate.Settles _ (interpreter.callIdle definitions) :=
      Code.callEntryPoint_settles stands holds (Code.enterIdle_agree stands definitions.enterable)
        (Definitions.enterIdle_meets definitions definitions.enterable)
    refine ⟨definitions.enterable.length, runWithin_eq_ok_iff.mpr ?_⟩
    rw [most]
    show ∃ outcome, interpreter.callIdle definitions = .ok outcome
    cases called : interpreter.callIdle definitions with
    | ok outcome => exact ⟨outcome, rfl⟩
    | error stop =>
        rw [called] at settles
        cases settles with
        | tooDeep _ => exact absurd called idle
        | refused => exact absurd called (accepted _)

theorem runWithin_tooDeep (serves : interpreter.Serves definitions)
    (cut : (runWithin definitions.functions.length interpreter.code interpreter.machine).1 = .error .nestedTooDeep)
    (depth : Nat) :
    (runWithin depth interpreter.code interpreter.machine).1 = .error .nestedTooDeep ∨
      ∃ refusal, (runWithin depth interpreter.code interpreter.machine).1 = .error (.memory (.refused refusal)) := by
  obtain ⟨table, stands, holds⟩ := serves
  have settles := Code.callEntryPoint_settles stands holds (Code.enter_agree stands depth)
    (Definitions.enter_meets definitions depth)
  simp only [runWithin_eq_error_iff] at cut ⊢
  cases called : (interpreter.code.callEntryPoint (interpreter.code.enter depth) interpreter.machine).1 with
  | ok outcome =>
      rw [Code.callEntryPoint_eq stands holds called definitions.length_enterable_le, called] at cut
      cases cut
  | error stop =>
      rw [called] at settles
      cases settles with
      | tooDeep _ => exact .inl rfl
      | refused => exact .inr ⟨_, rfl⟩

end Interpreter

/-- A run that is refused no memory ends just if it never enters a function while an activation of
it is in progress. One that ends nests activations no deeper than there are functions to enter, so
it is the same run however much deeper it may go, and one that goes deeper than there are
declarations ends at no depth. -/
theorem ends_iff_never_reenters {σ : Type} [Writer σ] {definitions : Definitions} {interpreter : Interpreter σ}
    (serves : interpreter.Serves definitions) :
    let run (depth : Nat) := Interpreter.runWithin depth interpreter.code interpreter.machine
    ((∀ refusal, interpreter.callIdle definitions ≠ .error (.memory (.refused refusal))) →
        ((∃ depth result, (run depth).1 = .ok result) ↔
          interpreter.callIdle definitions ≠ .error .nestedTooDeep)) ∧
      (∀ depth, (∃ result, (run depth).1 = .ok result) →
        ∀ limit, definitions.enterable.length ≤ limit → run limit = run depth) ∧
      definitions.enterable.length ≤ definitions.functions.length ∧
      ((run definitions.functions.length).1 = .error .nestedTooDeep → ∀ depth,
        (run depth).1 = .error .nestedTooDeep ∨
          ∃ refusal, (run depth).1 = .error (.memory (.refused refusal))) :=
  ⟨Interpreter.exists_runWithin_iff serves, fun _ ended _ room => Interpreter.runWithin_eq serves ended room,
    definitions.length_enterable_le, Interpreter.runWithin_tooDeep serves⟩

def Program.circular : Program :=
  [.declare "main" [] [.call "again" []], .declare "again" [] [.ret (some (.call "print" [.call "again" []]))]]

theorem ends_iff_never_reenters_circular :
    ∃ interpreter,
      Interpreter.create .small OutputStream.unbounded .collecting .standard .circular = .ok interpreter ∧
        interpreter.Serves (Program.circular.definitions .standard) ∧
        (¬∃ depth result, (Interpreter.runWithin depth interpreter.code interpreter.machine).1 = .ok result) ∧
        ∀ depth,
          (Interpreter.runWithin depth interpreter.code interpreter.machine).1 = .error .nestedTooDeep ∨
            ∃ refusal, (Interpreter.runWithin depth interpreter.code interpreter.machine).1 =
              .error (.memory (.refused refusal)) := by
  have sound := (Memory.create_holds System.paged_sound Memory.small_created).sound
  have cut : (Interpreter.create .small OutputStream.unbounded .collecting .standard .circular).toOption.any
      (fun interpreter => interpreter.callIdle (Program.circular.definitions .standard) = .error .nestedTooDeep ∧
        (Interpreter.runWithin 2 interpreter.code interpreter.machine).1 = .error .nestedTooDeep) = true := by
    decide +kernel
  obtain ⟨interpreter, created, idle, within⟩ := exists_ok_of_any cut
  have serves := Interpreter.create_serves sound created
  obtain ⟨ends, _, _, exceeds⟩ := ends_iff_never_reenters serves
  have never := (ends (by simp [idle])).not.mpr (by simp [idle])
  exact ⟨interpreter, created, serves, never, exceeds within⟩

end ArenaLang
