import ArenaLang.Native.Registry

namespace ArenaLang

inductive Access where
  | attempt (bytes : List UInt8)
  | offer (bytes : List UInt8)
  | flush
deriving DecidableEq

variable {σ : Type} [Writer σ]

def Access.effect : Access → σ → σ
  | .attempt bytes, output => (Writer.write bytes output).2
  | .offer bytes, output => (Writer.offer bytes output).2
  | .flush, output => (Writer.flush output).2

def Writer.through (accesses : List Access) (output : σ) : σ :=
  accesses.foldl (fun output access => access.effect output) output

theorem Writer.through_append (accesses more : List Access) (output : σ) :
    through (accesses ++ more) output = through more (through accesses output) := List.foldl_append

namespace Script

def accesses : Script → σ → List Access
  | .done _, _ => []
  | .attempt bytes next, output =>
      let (attempted, output) := Writer.write bytes output
      .attempt bytes :: accesses (next attempted) output
  | .offer bytes next, output =>
      let (answer, output) := Writer.offer bytes output
      .offer bytes :: accesses (next answer) output
  | .flush next, output =>
      let (answer, output) := Writer.flush output
      .flush :: accesses (next answer) output
  | .report _ next, output => accesses next output

theorem run_through (script : Script) (output : σ) :
    (script.run output).output = Writer.through (script.accesses output) output := by
  induction script generalizing output with
  | done value => rfl
  | attempt bytes next ih => exact ih _ _
  | offer bytes next ih => exact ih _ _
  | flush next ih => exact ih _ _
  | report diagnostic next ih => exact ih output

def Unflushing : Script → Prop
  | .done _ => True
  | .attempt _ next => ∀ attempted, (next attempted).Unflushing
  | .offer _ next => ∀ answer, (next answer).Unflushing
  | .flush _ => False
  | .report _ next => next.Unflushing

theorem Unflushing.not_mem {script : Script} (unflushing : script.Unflushing) (output : σ) :
    .flush ∉ script.accesses output := by
  induction script generalizing output with
  | done value => exact List.not_mem_nil
  | attempt bytes next ih => exact List.not_mem_cons_of_ne_of_not_mem nofun (ih _ (unflushing _) _)
  | offer bytes next ih => exact List.not_mem_cons_of_ne_of_not_mem nofun (ih _ (unflushing _) _)
  | flush next => exact unflushing.elim
  | report diagnostic next ih => exact ih unflushing output

end Script

/-! ## Native functions -/

def Native.prompt : Handler := fun args =>
  match (args.value 0).text? with
  | .error mismatch => Script.fail (args.name ++ " expects a string argument: " ++ mismatch.message)
  | .ok text =>
      Script.writeText text fun
        | .error reason => Script.fail (args.name ++ " failed to write output: " ++ reason)
        | .ok () => .flush fun
          | .error reason => Script.fail (args.name ++ " failed to write output: " ++ reason)
          | .ok () => .done .nothing

def Registry.Unflushing (natives : Registry) : Prop :=
  ∀ native ∈ natives.entries, ∀ args, (native.handler args).Unflushing

/-- What native functions, called one after another, do to a writer. -/
inductive Registry.Accesses (natives : Registry) : List Access → σ → σ → Prop
  | nothing (output : σ) : Accesses natives [] output output
  | performed {native : Native} (member : native ∈ natives.entries) (args : Args) {more : List Access} {output last : σ}
      (rest : Accesses natives more ((native.handler args).run output).output last) :
      Accesses natives ((native.handler args).accesses output ++ more) output last

namespace Registry.Accesses

variable {natives : Registry} {accesses more : List Access} {output middle last : σ}

theorem trans (first : natives.Accesses accesses output middle) (rest : natives.Accesses more middle last) :
    natives.Accesses (accesses ++ more) output last := by
  induction first with
  | nothing output => exact rest
  | performed member args _ ih =>
      rw [List.append_assoc]
      exact .performed member args (ih rest)

theorem through (accessed : natives.Accesses accesses output last) : last = Writer.through accesses output := by
  induction accessed with
  | nothing output => rfl
  | performed member args _ ih => rw [ih, Writer.through_append, Script.run_through]

theorem not_flush (accessed : natives.Accesses accesses output last) (unflushing : natives.Unflushing) :
    .flush ∉ accesses := by
  induction accessed with
  | nothing output => exact List.not_mem_nil
  | performed member args _ ih =>
      rw [List.mem_append, not_or]
      exact ⟨(unflushing _ member args).not_mem _, ih⟩

end Registry.Accesses

end ArenaLang
