import ArenaLang.OutputStream
import ArenaLang.Proofs.Accesses
import ArenaLang.Proofs.Nesting

namespace ArenaLang

variable {σ α β : Type} {accepts : σ → Prop} {bytes : σ → List UInt8}

namespace WorldM

inductive Fixed (accepts : σ → Prop) (bytes : σ → List UInt8) (step : WorldM σ α) : Prop
  | never (none : ∀ world, accepts world.output → step world = none)
  | always (a : α) (written : List UInt8) (events : List Event)
      (does : ∀ world, accepts world.output → ∃ later,
        step world = some (a, ⟨later, world.events ++ events⟩) ∧ accepts later ∧
          bytes later = bytes world.output ++ written)

theorem Fixed.pure (a : α) : Fixed accepts bytes (pure a : WorldM σ α) := by
  refine .always a [] [] fun world ok => ⟨world.output, ?_, ok, (List.append_nil _).symm⟩
  rw [List.append_nil]
  rfl

theorem Fixed.bind {step : WorldM σ α} {next : α → WorldM σ β} (first : Fixed accepts bytes step)
    (second : ∀ a, Fixed accepts bytes (next a)) : Fixed accepts bytes (step >>= next) := by
  cases first with
  | never none =>
      refine .never fun world ok => ?_
      rw [bind_apply, none world ok]
      rfl
  | always a written events does =>
      cases second a with
      | never none =>
          refine .never fun world ok => ?_
          obtain ⟨later, ends, still, _⟩ := does world ok
          rw [bind_apply, ends]
          exact none _ still
      | always b more others goesOn =>
          refine .always b (written ++ more) (events ++ others) fun world ok => ?_
          obtain ⟨middle, ends, still, grown⟩ := does world ok
          obtain ⟨later, reached, last, all⟩ := goesOn ⟨middle, world.events ++ events⟩ still
          refine ⟨later, ?_, last, ?_⟩
          · rw [bind_apply, ends]
            simp only [Option.bind_some, reached, List.append_assoc]
          · rw [all, grown, List.append_assoc]

theorem Fixed.note (event : Event) : Fixed accepts bytes (WorldM.note event : WorldM σ Unit) :=
  .always () [] [event] fun world ok => ⟨world.output, rfl, ok, (List.append_nil _).symm⟩

theorem Fixed.recover (d : Diagnostic) : Fixed accepts bytes (WorldM.recover d : WorldM σ Value) :=
  (Fixed.note _).bind fun _ => .pure _

end WorldM

/-! ## Writers -/

/-- Whether a writer, as long as it is in one of some states, accepts all it is offered and stays in
such a state. The bytes are those it has accepted so far. -/
structure Writer.Accepting {σ : Type} [Writer σ] (accepts : σ → Prop) (bytes : σ → List UInt8) : Prop where
  write : ∀ offered output, accepts output → ∃ later,
    Writer.write offered output = (.answered (.accepted offered.length), later) ∧ accepts later ∧
      bytes later = bytes output ++ offered
  flush : ∀ output, accepts output →
    accepts (Writer.flush output).2 ∧ bytes (Writer.flush output).2 = bytes output

/-- Whether all flushes of a writer in some states have the same answer. -/
def Writer.Steady {σ : Type} [Writer σ] (accepts : σ → Prop) : Prop :=
  ∃ answer, ∀ output, accepts output → (Writer.flush output).1 = answer

theorem Writer.Accepting.offer {σ : Type} [Writer σ] {accepts : σ → Prop} {bytes : σ → List UInt8}
    (accepting : Writer.Accepting accepts bytes) (offered : List UInt8) (output : σ) (ok : accepts output) :
    ∃ later, Writer.offer offered output = (.accepted offered.length, later) ∧ accepts later ∧
      bytes later = bytes output ++ offered := by
  obtain ⟨later, written, still, all⟩ := accepting.write offered output ok
  refine ⟨later, ?_, still, all⟩
  rw [Writer.offer]
  split
  · rename_i answered
    rw [written] at answered
    cases answered
    rfl
  · rename_i interrupted
    rw [written] at interrupted
    cases interrupted

structure OutputStream.Unbounded (stream : OutputStream) : Prop where
  unbuffered : stream.buffered = false
  limit : stream.limit = none
  chunk : stream.chunk = none
  interrupts : stream.interrupts = 0
  flushFailures : stream.flushFailures = 0
  kept : stream.kept = #[]

theorem OutputStream.accepting : Writer.Accepting Unbounded fun stream => stream.written.toList := by
  constructor
  · intro offered stream unbounded
    have capacity : stream.capacityFor offered.length = some offered.length := by
      simp [capacityFor, unbounded.limit, unbounded.chunk]
    refine ⟨{ stream with written := stream.written ++ offered }, ?_, ?_, ?_⟩
    · show stream.write offered = _
      unfold write
      rw [if_neg (by simp [unbounded.unbuffered])]
      split
      · rename_i interrupted
        exact absurd (interrupted.symm.trans unbounded.interrupts) (Nat.succ_ne_zero _)
      · simp only [answer, capacity, List.take_length]
    · exact ⟨unbounded.unbuffered, unbounded.limit, unbounded.chunk, unbounded.interrupts, unbounded.flushFailures,
        unbounded.kept⟩
    · simp
  · intro stream unbounded
    show Unbounded stream.flush.2 ∧ stream.flush.2.written.toList = _
    rw [flush, unbounded.flushFailures]
    refine ⟨⟨unbounded.unbuffered, unbounded.limit, unbounded.chunk, unbounded.interrupts, rfl, rfl⟩, ?_⟩
    simp [unbounded.kept]

theorem OutputStream.steady : Writer.Steady Unbounded := by
  refine ⟨.ok (), ?_⟩
  intro stream unbounded
  show stream.flush.1 = _
  rw [flush, unbounded.flushFailures]

variable [Writer σ]

def Script.Fixed (accepts : σ → Prop) (bytes : σ → List UInt8) (script : Script) : Prop :=
  ∃ value written reported, ∀ output, accepts output → ∃ later,
    script.run output = ⟨value, later, reported⟩ ∧ accepts later ∧ bytes later = bytes output ++ written

theorem Script.Fixed.after {γ : Type} {script : Script} {use : σ → γ × σ} {next : γ → Script} {answer : γ}
    {offered : List UInt8} (runs : ∀ output, script.run output = (next (use output).1).run (use output).2)
    (answers : ∀ output, accepts output → ∃ middle,
      use output = (answer, middle) ∧ accepts middle ∧ bytes middle = bytes output ++ offered)
    (rest : (next answer).Fixed accepts bytes) : script.Fixed accepts bytes := by
  obtain ⟨value, written, reported, fixed⟩ := rest
  refine ⟨value, offered ++ written, reported, ?_⟩
  intro output ok
  obtain ⟨middle, answered, still, grown⟩ := answers output ok
  obtain ⟨later, ran, ends, all⟩ := fixed middle still
  refine ⟨later, ?_, ends, ?_⟩
  · rw [runs, answered]
    exact ran
  · rw [all, grown, List.append_assoc]

theorem Script.fixed (accepting : Writer.Accepting accepts bytes) {script : Script}
    (flushes : Writer.Steady accepts ∨ script.Unflushing) : script.Fixed accepts bytes := by
  induction script with
  | done value => exact ⟨value, [], [], fun output ok => ⟨output, rfl, ok, (List.append_nil _).symm⟩⟩
  | attempt offered next ih =>
      exact .after (fun _ => rfl) (accepting.write offered) (ih _ (flushes.imp_right fun unflushing => unflushing _))
  | offer offered next ih =>
      exact .after (fun _ => rfl) (accepting.offer offered) (ih _ (flushes.imp_right fun unflushing => unflushing _))
  | flush next ih =>
      -- A script that flushes is not `Unflushing`, so all answers to flushes are the same.
      have steady : Writer.Steady accepts := flushes.resolve_right id
      have ⟨answer, answers⟩ := steady
      have flushed (output : σ) (ok : accepts output) : ∃ middle, Writer.flush output = (answer, middle) ∧
          accepts middle ∧ bytes middle = bytes output ++ [] := by
        obtain ⟨still, same⟩ := accepting.flush output ok
        exact ⟨_, Prod.ext (answers output ok) rfl, still, same.trans (List.append_nil _).symm⟩
      exact .after (fun _ => rfl) flushed (ih answer (.inl steady))
  | report diagnostic next ih =>
      obtain ⟨value, written, reported, fixed⟩ := ih flushes
      refine ⟨value, written, diagnostic :: reported, ?_⟩
      intro output ok
      obtain ⟨later, ran, ends, all⟩ := fixed output ok
      refine ⟨later, ?_, ends, all⟩
      rw [Script.run, ran]

def Registry.Fixed (accepts : σ → Prop) (bytes : σ → List UInt8) (natives : Registry) : Prop :=
  ∀ native ∈ natives.entries, ∀ args, WorldM.Fixed accepts bytes (WorldM.perform (native.handler args))

theorem Registry.fixed (accepting : Writer.Accepting accepts bytes) {natives : Registry}
    (flushes : Writer.Steady accepts ∨ natives.Unflushing) : natives.Fixed accepts bytes := by
  intro native member args
  obtain ⟨value, written, reported, fixed⟩ :=
    Script.fixed accepting (flushes.imp_right fun unflushing => unflushing native member args)
  refine .always value written (reported.map .reported) fun world ok => ?_
  obtain ⟨later, ran, still, all⟩ := fixed world.output ok
  refine ⟨later, ?_, still, all⟩
  rw [WorldM.perform_eq, ran]

/-! ## Evaluation -/

namespace Definitions

open WorldM (Fixed)

def Entry.Fixed (accepts : σ → Prop) (bytes : σ → List UInt8) (enter : Entry σ) : Prop :=
  ∀ function values, WorldM.Fixed accepts bytes (enter function values)

variable {definitions : Definitions} {enter : Entry σ}

theorem call_fixed (natives : definitions.natives.Fixed accepts bytes)
    (entering : enter.Fixed accepts bytes) (name : String) (count : Nat)
    {arguments : WorldM σ (List Value)} (evaluated : Fixed accepts bytes arguments) :
    Fixed accepts bytes (definitions.call enter name count arguments) := by
  unfold call
  cases resolved : definitions.resolve name with
  | none => exact .pure _
  | some callee =>
      apply (Fixed.note _).bind
      intro _
      cases callee with
      | native handler =>
          obtain ⟨native, registered, rfl⟩ := resolve_native resolved
          apply evaluated.bind
          intro values
          exact (natives native (List.mem_of_find?_eq_some registered) _).bind fun _ => .pure _
      | declared function =>
          show Fixed accepts bytes (if _ then _ else _)
          split
          · exact evaluated.bind fun values => entering function values
          · exact .pure _

mutual

theorem evaluate_fixed (natives : definitions.natives.Fixed accepts bytes)
    (entering : enter.Fixed accepts bytes) (activation : Activation) (e : Expr) :
    Fixed accepts bytes (definitions.evaluate enter activation e) := by
  cases e with
  | number n => exact .pure _
  | text s => exact .pure _
  | «variable» name =>
      unfold evaluate
      cases activation.lookup? name with
      | some value => exact .pure _
      | none => exact .recover _
  | call function arguments =>
      unfold evaluate
      apply (call_fixed natives entering function _ (evaluateAll_fixed natives entering activation arguments)).bind
      intro outcome
      cases outcome with
      | ok value => exact .pure _
      | error error => exact .recover _

theorem evaluateAll_fixed (natives : definitions.natives.Fixed accepts bytes)
    (entering : enter.Fixed accepts bytes) (activation : Activation)
    (expressions : List Expr) : Fixed accepts bytes (definitions.evaluateAll enter activation expressions) := by
  cases expressions with
  | nil => exact .pure _
  | cons e rest =>
      unfold evaluateAll
      apply (evaluate_fixed natives entering activation e).bind
      intro value
      exact (evaluateAll_fixed natives entering activation rest).bind fun _ => .pure _

end

theorem execute_fixed (natives : definitions.natives.Fixed accepts bytes)
    (entering : enter.Fixed accepts bytes) (activation : Activation)
    (statement : Stmt) : Fixed accepts bytes (definitions.execute enter activation statement) := by
  cases statement with
  | ret result =>
      cases result with
      | none => exact .pure _
      | some e => exact (evaluate_fixed natives entering activation e).bind fun _ => .pure _
  | call function arguments =>
      apply (call_fixed natives entering function _ (evaluateAll_fixed natives entering activation arguments)).bind
      intro outcome
      cases outcome <;> exact .pure _
  | declare name params body => exact .pure _

theorem executeAll_fixed (natives : definitions.natives.Fixed accepts bytes)
    (entering : enter.Fixed accepts bytes) (activation : Activation)
    (statements : List Stmt) : Fixed accepts bytes (definitions.executeAll enter activation statements) := by
  induction statements generalizing activation with
  | nil => exact .pure _
  | cons statement rest ih =>
      apply (execute_fixed natives entering activation statement).bind
      intro outcome
      cases outcome with
      | error error => exact .pure _
      | ok next =>
          show Fixed accepts bytes (if _ then _ else _)
          split
          · exact .pure _
          · exact ih next

theorem enter_fixed (natives : definitions.natives.Fixed accepts bytes) (depth : Nat) :
    Entry.Fixed accepts bytes (definitions.enter depth) := by
  induction depth with
  | zero => exact fun _ _ => .never fun _ _ => rfl
  | succ depth ih =>
      intro function values
      apply (executeAll_fixed natives ih _ function.body).bind
      intro outcome
      cases outcome <;> exact .pure _

theorem callEntryPoint_fixed (natives : definitions.natives.Fixed accepts bytes) (depth : Nat) :
    Fixed accepts bytes (definitions.callEntryPoint depth) := by
  apply (call_fixed natives (enter_fixed natives depth) Code.entryPoint 0 (.pure [])).bind
  intro outcome
  cases outcome with
  | error error => exact .pure _
  | ok value =>
      simp only
      cases value.number? <;> exact .pure _

end Definitions

end ArenaLang
