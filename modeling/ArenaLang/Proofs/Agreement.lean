import ArenaLang.Proofs.Reference
import ArenaLang.Proofs.Triple

/-!
# Agreement with the reference

A machine shows a world if output, diagnostics and events are those of the world; what arenas and
buffers log by themselves does not count. A step of the machine agrees with a step of the reference
if it ends like it, over every memory that has the needed entries in store and whatever else. The
rules here are those of triples, for two programs at once.
-/

namespace ArenaLang

def Log.ofRun (log : Log) : List Event := log.toList.filter (!·.ofArena)

def Event.diagnostic? : Event → Option Diagnostic
  | .reported d => some d
  | _ => none

def World.diagnostics {σ : Type} (world : World σ) : List Diagnostic :=
  world.events.filterMap Event.diagnostic?

def Sink.recordAll (diagnostics : List Diagnostic) (sink : Sink) : Sink :=
  diagnostics.foldl (fun sink d => sink.record d) sink

/-- Whether a machine that began as `start` has done what led to a world. -/
structure Machine.Shows {σ : Type} (start machine : Machine σ) (world : World σ) : Prop where
  output : machine.output = world.output
  events : machine.memory.log.ofRun = start.memory.log.ofRun ++ world.events
  sink : machine.sink = start.sink.recordAll world.diagnostics

theorem Memory.Evolves.log_ofRun {memory after : Memory} (evolves : memory.Evolves after) :
    after.log.ofRun = memory.log.ofRun := by
  obtain ⟨events, ours, log⟩ := evolves.logged
  have none : events.filter (!·.ofArena) = [] := by
    rw [List.filter_eq_nil_iff]
    intro event member
    rw [ours event member]
    decide
  rw [Log.ofRun, log, List.filter_append, none, List.append_nil]
  rfl

namespace Machine.Shows

variable {σ : Type} {start machine : Machine σ} {world : World σ}

theorem evolve {after : Memory} (shows : start.Shows machine world) (evolves : machine.memory.Evolves after) :
    start.Shows { machine with memory := after } world :=
  ⟨shows.output, evolves.log_ofRun ▸ shows.events, shows.sink⟩

theorem log_push {event : Event} (shows : start.Shows machine world) (ours : event.ofArena = false) :
    Log.ofRun (machine.memory.log.push event) = start.memory.log.ofRun ++ (world.events ++ [event]) := by
  have events := shows.events
  unfold Log.ofRun at events ⊢
  rw [Array.toList_push, List.filter_append, events, List.append_assoc]
  simp [ours]

theorem note {event : Event} (shows : start.Shows machine world) (ours : event.ofArena = false)
    (silent : event.diagnostic? = none) :
    start.Shows { machine with memory := { machine.memory with log := machine.memory.log.push event } }
      { world with events := world.events ++ [event] } := by
  refine ⟨shows.output, shows.log_push ours, ?_⟩
  have same : World.diagnostics { world with events := world.events ++ [event] } = world.diagnostics := by
    simp [World.diagnostics, silent]
  rw [same]
  exact shows.sink

theorem unique {other : World σ} (shows : start.Shows machine world) (another : start.Shows machine other) :
    other = world := by
  obtain ⟨output, events⟩ := world
  obtain ⟨otherOutput, otherEvents⟩ := other
  have outputs : otherOutput = output := another.output.symm.trans shows.output
  have same : otherEvents = events := List.append_cancel_left (another.events.symm.trans shows.events)
  rw [outputs, same]

theorem report {d : Diagnostic} (shows : start.Shows machine world) :
    start.Shows
      { machine with
        memory := { machine.memory with log := machine.memory.log.push (.reported d) }
        sink := machine.sink.record d }
      { world with events := world.events ++ [.reported d] } := by
  refine ⟨shows.output, shows.log_push rfl, ?_⟩
  have more : World.diagnostics { world with events := world.events ++ [.reported d] } =
      world.diagnostics ++ [d] := by
    simp [World.diagnostics, Event.diagnostic?]
  rw [more, Sink.recordAll, List.foldl_append]
  exact congrArg (Sink.record d) shows.sink

end Machine.Shows

namespace RunM

open MemoryM (Triple)

variable {σ α β : Type} {start : Machine σ} {needs : Ledger} {step : RunM σ α}

theorem bind_apply (step : RunM σ α) (next : α → RunM σ β) (machine : Machine σ) :
    (step >>= next) machine =
      match step machine with
      | (.ok a, after) => next a after
      | (.error stop, after) => (.error stop, after) := by
  simp only [bind, ExceptT.bind, ExceptT.mk, StateT.bind]
  rcases step machine with ⟨_ | _, _⟩ <;> rfl

theorem pure_apply (a : α) (machine : Machine σ) : (pure a : RunM σ α) machine = (.ok a, machine) := rfl

theorem get_apply (machine : Machine σ) : (get : RunM σ (Machine σ)) machine = (.ok machine, machine) := rfl

theorem set_apply (after machine : Machine σ) : (set after : RunM σ PUnit) machine = (.ok (), after) := rfl

inductive EndsLike (start : Machine σ) (frame : Ledger) (gives : α → β → Ledger → Prop) :
    Except Stop α × Machine σ → Option (β × World σ) → Prop
  | done {a : α} {b : β} {after : Machine σ} {world : World σ} {ledger : Ledger} (given : gives a b ledger)
      (holds : after.memory.Holds (ledger ++ frame)) (shows : start.Shows after world) :
      EndsLike start frame gives (.ok a, after) (some (b, world))
  | refused {refusal : Refusal} {after : Machine σ} {ending : Option (β × World σ)}
      (holds : after.memory.Holds frame) :
      EndsLike start frame gives (.error (.memory (.refused refusal)), after) ending
  | tooDeep {after : Machine σ} (holds : after.memory.Holds frame) :
      EndsLike start frame gives (.error .nestedTooDeep, after) none

theorem EndsLike.holds {frame : Ledger} {gives : α → β → Ledger → Prop} {value : Except Stop α} {after : Machine σ}
    {ending : Option (β × World σ)} (ends : EndsLike start frame gives (value, after) ending) :
    after.memory.Holds frame := by
  cases ends with
  | done _ holds _ => exact holds.right
  | refused holds => exact holds
  | tooDeep holds => exact holds

theorem EndsLike.shows_iff {frame : Ledger} {value : Except Stop α} {after : Machine σ}
    {ending : Option (α × World σ)} (ends : EndsLike start frame (fun a b _ => a = b) (value, after) ending)
    (accepted : ∀ refusal, value ≠ .error (.memory (.refused refusal))) (a : α) (world : World σ) :
    (value = .ok a ∧ start.Shows after world) ↔ ending = some (a, world) := by
  cases ends with
  | @done done _ _ reached _ same _ shows =>
      cases same
      constructor
      · rintro ⟨ended, shown⟩
        cases ended
        rw [shows.unique shown]
      · intro ended
        cases ended
        exact ⟨rfl, shows⟩
  | refused _ => exact absurd rfl (accepted _)
  | tooDeep _ =>
      constructor
      · rintro ⟨ended, _⟩
        cases ended
      · intro ended
        cases ended

def Agree (start : Machine σ) (needs : Ledger) (step : RunM σ α) (plain : WorldM σ β)
    (gives : α → β → Ledger → Prop) : Prop :=
  ∀ (frame : Ledger) (machine : Machine σ) (world : World σ), machine.memory.Holds (needs ++ frame) →
    start.Shows machine world → EndsLike start frame gives (step machine) (plain world)

namespace Agree

variable {plain : WorldM σ β} {gives : α → β → Ledger → Prop}

theorem pure {a : α} {b : β} (given : gives a b needs) : Agree start needs (pure a) (pure b) gives :=
  fun _ _ _ holds shows => .done given holds shows

theorem drop {a : α} {b : β} {part : Ledger} (given : gives a b part) (subperm : part.Subperm needs) :
    Agree start needs (Pure.pure a) (Pure.pure b) gives :=
  fun _ _ _ holds shows =>
    .done given (holds.subperm ((List.subperm_append_right _).mpr subperm)) shows

theorem tooDeep : Agree start needs (throw .nestedTooDeep) (fun _ => none : WorldM σ β) gives :=
  fun _ _ _ holds _ => .tooDeep holds.right

theorem bind {γ δ : Type} {next : α → RunM σ γ} {follow : β → WorldM σ δ} {last : γ → δ → Ledger → Prop}
    (first : Agree start needs step plain gives)
    (second : ∀ a b ledger, gives a b ledger → Agree start ledger (next a) (follow b) last) :
    Agree start needs (step >>= next) (plain >>= follow) last := by
  intro frame machine world holds shows
  have ends := first frame machine world holds shows
  rw [bind_apply, WorldM.bind_apply]
  generalize step machine = result at ends
  generalize plain world = ending at ends
  cases ends with
  | done given held shown => exact second _ _ _ given frame _ _ held shown
  | refused held => exact .refused held
  | tooDeep held => exact .tooDeep held

theorem lone {γ : Type} {first : RunM σ γ} {next : γ → RunM σ α} {mid : γ → Ledger → Prop}
    (taken : Agree start needs first (Pure.pure ()) fun c _ ledger => mid c ledger)
    (rest : ∀ c ledger, mid c ledger → Agree start ledger (next c) plain gives) :
    Agree start needs (first >>= next) plain gives := by
  have both : Agree start needs (first >>= next) (Pure.pure () >>= fun _ => plain) gives :=
    taken.bind fun c _ ledger given => rest c ledger given
  exact both

theorem known {γ : Type} {first : RunM σ γ} {next : γ → RunM σ α} {c : γ}
    (taken : Agree start needs first (Pure.pure c) fun a b ledger => a = b ∧ ledger = needs)
    (rest : Agree start needs (next c) plain gives) : Agree start needs (first >>= next) plain gives := by
  intro frame machine world holds shows
  have ends := taken frame machine world holds shows
  rw [bind_apply]
  generalize first machine = result at ends
  cases ends with
  | done given held shown =>
      obtain ⟨rfl, rfl⟩ := given
      exact rest frame _ _ held shown
  | refused held => exact .refused held

theorem onMemory {γ : Type} {action : MemoryM γ} {mid : γ → Ledger → Prop} (triple : Triple needs action mid) :
    Agree start needs (RunM.onMemory action) (Pure.pure ()) fun c _ ledger => mid c ledger := by
  intro frame machine world holds shows
  have outcome := triple frame machine.memory holds
  rw [RunM.onMemory]
  generalize action machine.memory = result at outcome
  cases outcome with
  | done evolves given held => exact .done given held (shows.evolve evolves)
  | refused evolves held => exact .refused held

theorem mapRight {γ : Type} (f : β → γ) (agree : Agree start needs step plain gives) :
    Agree start needs step (do return f (← plain)) fun a c ledger => ∃ b, c = f b ∧ gives a b ledger := by
  intro frame machine world holds shows
  have ends := agree frame machine world holds shows
  rw [WorldM.bind_apply]
  generalize step machine = result at ends ⊢
  generalize plain world = ending at ends ⊢
  cases ends with
  | done given held shown => exact .done ⟨_, rfl, given⟩ held shown
  | refused held => exact .refused held
  | tooDeep held => exact .tooDeep held

theorem imp {other : α → β → Ledger → Prop} (agree : Agree start needs step plain gives)
    (weaker : ∀ a b ledger, gives a b ledger → ∃ part, other a b part ∧ part.Subperm ledger) :
    Agree start needs step plain other := by
  intro frame machine world holds shows
  have ends := agree frame machine world holds shows
  generalize step machine = result at ends ⊢
  generalize plain world = ending at ends ⊢
  cases ends with
  | done given held shown =>
      obtain ⟨part, given, subperm⟩ := weaker _ _ _ given
      exact .done given (held.subperm ((List.subperm_append_right frame).mpr subperm)) shown
  | refused held => exact .refused held
  | tooDeep held => exact .tooDeep held

theorem perm {other : Ledger} (agree : Agree start needs step plain gives) (same : other.Perm needs) :
    Agree start other step plain gives :=
  fun frame machine world holds shows =>
    agree frame machine world (holds.perm (same.append_right frame)) shows

theorem frame (agree : Agree start needs step plain gives) (extra : Ledger) :
    Agree start (needs ++ extra) step plain
      fun a b ledger => ∃ given, gives a b given ∧ ledger = given ++ extra := by
  intro frame machine world holds shows
  have ends := agree (extra ++ frame) machine world (List.append_assoc needs extra frame ▸ holds) shows
  generalize step machine = result at ends ⊢
  generalize plain world = ending at ends ⊢
  cases ends with
  | done given held shown =>
      exact .done ⟨_, given, rfl⟩ (List.append_assoc _ extra frame ▸ held) shown
  | refused held => exact .refused held.right
  | tooDeep held => exact .tooDeep held.right

/-! ## What shows -/

theorem note {event : Event} (ours : event.ofArena = false) (silent : event.diagnostic? = none) :
    Agree start needs (RunM.note event) (WorldM.note event) fun _ _ ledger => ledger = needs :=
  fun _ _ _ holds shows => .done rfl (holds.of_arena_eq rfl) (shows.note ours silent)

theorem report (d : Diagnostic) :
    Agree start needs (RunM.report d) (WorldM.report d) fun _ _ ledger => ledger = needs :=
  fun _ _ _ holds shows => .done rfl (holds.of_arena_eq rfl) shows.report

theorem reportAll (diagnostics : List Diagnostic) :
    Agree start needs (RunM.reportAll diagnostics) (WorldM.reportAll diagnostics)
      fun _ _ ledger => ledger = needs := by
  induction diagnostics with
  | nil => exact .pure rfl
  | cons d rest ih =>
      apply Agree.bind (report d)
      rintro _ _ _ rfl
      exact ih

variable [Writer σ]

theorem perform (script : Script) :
    Agree start needs (RunM.perform script) (WorldM.perform script)
      fun a b ledger => a = b ∧ ledger = needs := by
  intro frame machine world holds shows
  obtain ⟨output, events⟩ := world
  cases shows.output
  let performance := script.run machine.output
  have written : start.Shows { machine with output := performance.output } ⟨performance.output, events⟩ :=
    ⟨rfl, shows.events, shows.sink⟩
  have reporting : Agree start needs
      (do RunM.reportAll performance.reported; return performance.value)
      (do WorldM.reportAll performance.reported; return performance.value)
      fun a b ledger => a = b ∧ ledger = needs := by
    apply Agree.bind (reportAll performance.reported)
    rintro _ _ _ rfl
    exact .pure ⟨rfl, rfl⟩
  exact reporting frame { machine with output := performance.output } _ holds written

theorem flush :
    Agree start needs Interpreter.flush Definitions.flush fun _ _ ledger => ledger = needs := by
  intro frame machine world holds shows
  obtain ⟨output, events⟩ := world
  cases shows.output
  rcases flushed : Writer.flush machine.output with ⟨answer, rest⟩
  have kept : ({ machine with output := rest } : Machine σ).memory.Holds (needs ++ frame) := holds
  have delivered : start.Shows { machine with output := rest } ⟨rest, events⟩ :=
    ⟨rfl, shows.events, shows.sink⟩
  simp only [Interpreter.flush, Definitions.flush, bind_apply, get_apply, set_apply, WorldM.bind_apply,
    WorldM.get_apply, WorldM.set_apply, Option.bind_some, flushed]
  cases answer with
  | ok _ => exact .done rfl kept delivered
  | error reason => exact report _ frame _ _ kept delivered

end Agree

end RunM

end ArenaLang
