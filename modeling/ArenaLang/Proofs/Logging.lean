import ArenaLang.Proofs.Lockstep

namespace ArenaLang

structure Machine.Logged {σ : Type} (start machine : Machine σ) (events : List Event) : Prop where
  log : machine.memory.log.toList = start.memory.log.toList ++ events
  sink : machine.sink = start.sink.recordAll (events.filterMap Event.diagnostic?)

namespace Machine.Logged

variable {σ : Type} {start middle machine : Machine σ} {events more : List Event}

theorem refl (machine : Machine σ) : machine.Logged machine [] := ⟨(List.append_nil _).symm, rfl⟩

theorem trans (logged : start.Logged middle events) (further : middle.Logged machine more) :
    start.Logged machine (events ++ more) := by
  constructor
  · rw [further.log, logged.log, List.append_assoc]
  · rw [further.sink, logged.sink, List.filterMap_append, Sink.recordAll, Sink.recordAll, Sink.recordAll,
      List.foldl_append]

theorem noted {event : Event} (silent : event.diagnostic? = none) : machine.Logged (machine.noted event) [event] :=
  ⟨Array.toList_push, by simp only [List.filterMap_cons, silent]; rfl⟩

theorem reported (d : Diagnostic) : machine.Logged (machine.reported d) [.reported d] := ⟨Array.toList_push, rfl⟩

theorem reportedAll (diagnostics : List Diagnostic) :
    machine.Logged (machine.reportedAll diagnostics) (diagnostics.map .reported) := by
  induction diagnostics generalizing machine with
  | nil => exact .refl machine
  | cons d rest ih => exact (reported d).trans ih

theorem onMemory {α : Type} {step : MemoryM α} (appends : step.Appends) (arena : Arena) :
    ∃ (answer : Except Stop α) (carved : Arena) (events : List Event), ∀ {τ : Type} (machine : Machine τ),
      machine.memory.arena = arena → ∃ later : Machine τ, RunM.onMemory step machine = (answer, later) ∧
        later.memory.arena = carved ∧ later.output = machine.output ∧ machine.Logged later events := by
  obtain ⟨result, carved, events, silent, stepped⟩ := appends arena
  have none : events.toList.filterMap Event.diagnostic? = [] :=
    List.filterMap_eq_nil_iff.mpr fun event member => silent event (Array.mem_toList_iff.mp member)
  refine ⟨result.mapError .memory, carved, events.toList, fun {τ} machine same => ?_⟩
  obtain ⟨⟨current, log⟩, output, sink⟩ := machine
  obtain rfl : current = arena := same
  have logged : (⟨⟨current, log⟩, output, sink⟩ : Machine τ).Logged ⟨⟨carved, log ++ events⟩, output, sink⟩
      events.toList := ⟨Array.toList_append, by rw [none]; rfl⟩
  refine ⟨⟨⟨carved, log ++ events⟩, output, sink⟩, ?_, rfl, rfl, logged⟩
  simp only [RunM.onMemory, stepped]
  cases result <;> rfl

variable [Writer σ]

theorem performed (script : Script) (machine : Machine σ) :
    machine.Logged (RunM.perform script machine).2 ((script.run machine.output).reported.map .reported) := by
  rw [RunM.perform_apply]
  let written : Machine σ := { machine with output := (script.run machine.output).output }
  have logged : written.Logged _ _ := .reportedAll (script.run machine.output).reported
  exact ⟨logged.log, logged.sink⟩

theorem flushed (machine : Machine σ) :
    machine.Logged machine.flushed ((Writer.flushWarnings machine.output).map .reported) := by
  unfold Machine.flushed Writer.flushWarnings
  rcases Writer.flush machine.output with ⟨reason | _, output⟩
  · exact ⟨(reported _).log, (reported _).sink⟩
  · exact ⟨(refl machine).log, rfl⟩

theorem concluded (machine : Machine σ) (verdict : Except RunError Int) :
    machine.Logged (machine.concluded verdict)
      ((Writer.flushWarnings machine.output).map .reported ++ World.exits verdict) := by
  cases verdict with
  | ok exitCode => exact (flushed machine).trans (noted rfl)
  | error error =>
      rw [World.exits, List.append_nil]
      exact flushed machine

end Machine.Logged

end ArenaLang
