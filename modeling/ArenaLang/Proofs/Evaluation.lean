import ArenaLang.Proofs.Agreement
import ArenaLang.Proofs.Buffers

namespace ArenaLang

open RunM

structure Scope.Stands (scope : Scope) (activation : Activation) (bound : Ledger) : Prop where
  bindings : scope.bindings.Stands activation.bindings bound
  result : scope.result = activation.result
  halted : scope.halted = activation.halted

structure Code.Stands (code : Code) (definitions : Definitions) (table : Ledger) : Prop where
  functions : code.functions.Stands definitions.functions table
  natives : code.natives = definitions.natives

namespace Scope

open MemoryM (Triple)

theorem lookup_triple {scope : Scope} {activation : Activation} {bound : Ledger}
    (stands : scope.Stands activation bound) (name : String) :
    Triple bound (scope.lookup? name) fun found ledger => found = activation.lookup? name ∧ ledger = bound := by
  apply Triple.bind stands.bindings.toList_triple
  rintro _ _ ⟨rfl, rfl⟩
  exact .pure ⟨rfl, rfl⟩

theorem bindAll_triple (pairs : List (String × Value)) {scope : Scope} {activation : Activation} {bound : Ledger}
    (stands : scope.Stands activation bound) :
    Triple bound (scope.bindAll pairs) fun filled ledger =>
      filled.Stands
        { activation with bindings := activation.bindings ++ pairs.map fun pair => ⟨pair.1, pair.2⟩ } ledger := by
  induction pairs generalizing scope activation bound with
  | nil =>
      rw [List.map_nil, List.append_nil]
      exact .pure stands
  | cons pair rest ih =>
      have step : Triple bound (scope.bind pair.1 pair.2) fun next ledger =>
          next.Stands { activation with bindings := activation.bindings ++ [⟨pair.1, pair.2⟩] } ledger := by
        apply Triple.bind (Buffer.push_triple stands.bindings ⟨pair.1, pair.2⟩)
        intro bindings ledger pushed
        exact .pure ⟨pushed, stands.result, stands.halted⟩
      apply Triple.bind step
      intro next ledger nextStands
      have filled := ih nextStands
      rw [List.append_assoc, List.singleton_append] at filled
      exact filled

theorem fresh_triple (params : List String) (values : List Value) :
    Triple [] (Scope.empty.bindAll (params.zip values)) fun scope ledger =>
      scope.Stands (.fresh params values) ledger := by
  have start : Scope.empty.Stands ⟨[], .nothing, false⟩ [] := ⟨Buffer.empty_stands, rfl, rfl⟩
  have filled := bindAll_triple (params.zip values) start
  have same : (params.zip values).map (fun pair => (⟨pair.1, pair.2⟩ : Binding)) =
      List.zipWith Binding.mk params values := by
    rw [← List.map_uncurry_zip_eq_zipWith]
    rfl
  rw [List.nil_append, same] at filled
  exact filled

end Scope

namespace Code

variable {σ : Type} {start : Machine σ} {code : Code} {definitions : Definitions} {table bound extra : Ledger}

theorem resolve_agree (stands : code.Stands definitions table) (name : String) :
    Agree start (table ++ extra) (code.resolve name) (pure (definitions.resolve name))
      fun a b ledger => a = b ∧ ledger = table ++ extra := by
  unfold resolve Definitions.resolve
  rw [stands.natives]
  cases definitions.natives.lookup? name with
  | some native => exact .pure ⟨rfl, rfl⟩
  | none =>
      have found : MemoryM.Triple (table ++ extra) (code.lookup? name) fun f ledger =>
          f = definitions.functions.find? (·.name == name) ∧ ledger = table ++ extra := by
        apply MemoryM.Triple.bind (stands.functions.toList_triple.frame extra)
        rintro _ _ ⟨_, ⟨rfl, rfl⟩, rfl⟩
        exact .pure ⟨rfl, rfl⟩
      apply Agree.lone (Agree.onMemory found)
      rintro _ _ ⟨rfl, rfl⟩
      exact .pure ⟨rfl, rfl⟩

def Entry.Agrees (start : Machine σ) (table : Ledger) (enter : Code.Entry σ) (plain : Definitions.Entry σ) : Prop :=
  ∀ function values, Agree start table (enter function values) (plain function values)
    fun a b ledger => a = b ∧ ledger = table

def Listed (base : Ledger) (buffer : Buffer Value) (values : List Value) (ledger : Ledger) : Prop :=
  ∃ part, buffer.Stands values part ∧ ledger = part ++ base

variable {enter : Code.Entry σ} {plain : Definitions.Entry σ}

theorem enter_agree_listed (entering : Entry.Agrees start table enter plain) (function : Declaration)
    {buffer : Buffer Value} {values : List Value} {ledger : Ledger}
    (listed : Listed (table ++ extra) buffer values ledger) :
    Agree start ledger (do enter function (← RunM.onMemory buffer.toList)) (plain function values)
      fun a b ledger => a = b ∧ ledger = table ++ extra := by
  obtain ⟨part, stands, rfl⟩ := listed
  apply Agree.lone (Agree.onMemory (stands.toList_triple.frame (table ++ extra)))
  rintro _ _ ⟨part, ⟨rfl, rfl⟩, rfl⟩
  have front : (part ++ (table ++ extra)).Perm (table ++ (part ++ extra)) :=
    List.perm_append_comm_assoc _ _ _
  apply (((entering function _).frame (part ++ extra)).perm front).imp
  rintro a b _ ⟨table, ⟨rfl, rfl⟩, rfl⟩
  have dropped : (table ++ extra).Sublist (table ++ (part ++ extra)) :=
    (List.sublist_append_right part extra).append_left table
  exact ⟨_, ⟨rfl, rfl⟩, dropped.subperm⟩

theorem argumentBuffer_agree (count : Nat) {base : Ledger} :
    Agree start base (argumentBuffer count) (pure ()) fun buffer _ ledger => Listed base buffer [] ledger := by
  have made := (Buffer.withCapacity_triple (α := Value) count).frame base
  apply (Agree.onMemory made).imp
  rintro buffer _ _ ⟨part, stands, rfl⟩
  exact ⟨_, ⟨part, stands, rfl⟩, .refl _⟩

theorem arguments_agree {base : Ledger} (count : Nat) {evaluate : Buffer Value → RunM σ (Buffer Value)}
    {values : WorldM σ (List Value)}
    (evaluated : ∀ buffer ledger, Listed base buffer [] ledger →
      Agree start ledger (evaluate buffer) values (Listed base)) :
    Agree start base (do evaluate (← argumentBuffer count)) values (Listed base) := by
  apply Agree.lone (argumentBuffer_agree count)
  intro buffer ledger listed
  exact evaluated buffer ledger listed

theorem push_agree {base : Ledger} {buffer : Buffer Value} {values : List Value} {ledger : Ledger}
    (listed : Listed base buffer values ledger) (value : Value) :
    Agree start ledger (RunM.onMemory (buffer.push value)) (pure ())
      fun next _ ledger => Listed base next (values ++ [value]) ledger := by
  obtain ⟨part, stands, rfl⟩ := listed
  apply (Agree.onMemory ((Buffer.push_triple stands value).frame base)).imp
  rintro next _ _ ⟨grown, pushed, rfl⟩
  exact ⟨_, ⟨grown, pushed, rfl⟩, .refl _⟩

theorem recover_agree {needs : Ledger} (d : Diagnostic) :
    Agree start needs (recover d) (WorldM.recover d) fun a b ledger => a = b ∧ ledger = needs := by
  apply Agree.bind (Agree.report d)
  rintro _ _ _ rfl
  exact .pure ⟨rfl, rfl⟩

variable [Writer σ]

theorem perform_agree_listed (handler : Handler) (name : String) {base : Ledger}
    {buffer : Buffer Value} {values : List Value} {ledger : Ledger} (listed : Listed base buffer values ledger) :
    Agree start ledger
      (do
        let values ← RunM.onMemory buffer.toList
        return (.ok (← RunM.perform (handler ⟨name, values⟩)) : Outcome))
      (do return .ok (← WorldM.perform (handler ⟨name, values⟩)))
      fun a b ledger => a = b ∧ ledger = base := by
  obtain ⟨part, stands, rfl⟩ := listed
  apply Agree.lone (Agree.onMemory (stands.toList_triple.frame base))
  rintro _ _ ⟨part, ⟨rfl, rfl⟩, rfl⟩
  apply Agree.bind (Agree.perform _)
  rintro value _ _ ⟨rfl, rfl⟩
  exact .drop ⟨rfl, rfl⟩ (List.sublist_append_right part base).subperm

theorem call_agree (stands : code.Stands definitions table) (entering : Entry.Agrees start table enter plain)
    (name : String) (count : Nat) {arguments : RunM σ (Buffer Value)} {values : WorldM σ (List Value)}
    (evaluated : Agree start (table ++ extra) arguments values (Listed (table ++ extra))) :
    Agree start (table ++ extra) (code.call enter name count arguments)
      (definitions.call plain name count values) fun a b ledger => a = b ∧ ledger = table ++ extra := by
  unfold Code.call Definitions.call
  apply Agree.known (resolve_agree stands name)
  cases definitions.resolve name with
  | none => exact .pure ⟨rfl, rfl⟩
  | some callee =>
      apply Agree.bind (Agree.note rfl rfl)
      rintro _ _ _ rfl
      cases callee with
      | native handler =>
          apply Agree.bind evaluated
          intro buffer values ledger listed
          exact perform_agree_listed handler name listed
      | declared function =>
          simp only
          split
          · apply Agree.bind evaluated
            intro buffer values ledger listed
            exact enter_agree_listed entering function listed
          · exact .pure ⟨rfl, rfl⟩

/-! ## Expressions -/

mutual

theorem evaluate_agree (stands : code.Stands definitions table) (entering : Entry.Agrees start table enter plain)
    {scope : Scope} {activation : Activation} (held : scope.Stands activation bound) (e : Expr) :
    Agree start (table ++ bound) (code.evaluate enter scope e) (definitions.evaluate plain activation e)
      fun a b ledger => a = b ∧ ledger = table ++ bound := by
  cases e with
  | number n => exact .pure ⟨rfl, rfl⟩
  | text s => exact .pure ⟨rfl, rfl⟩
  | «variable» name =>
      have lookup := ((Scope.lookup_triple held name).frame table).perm (List.perm_append_comm)
      unfold evaluate Definitions.evaluate
      apply Agree.lone (Agree.onMemory lookup)
      rintro _ _ ⟨bound, ⟨rfl, rfl⟩, rfl⟩
      apply Agree.perm _ List.perm_append_comm
      cases activation.lookup? name with
      | some value => exact .pure ⟨rfl, rfl⟩
      | none => exact recover_agree _
  | call function arguments =>
      have evaluated := arguments_agree arguments.length fun buffer ledger listed =>
        evaluateAll_agree stands entering held arguments listed
      unfold evaluate Definitions.evaluate
      apply Agree.bind (call_agree stands entering function arguments.length evaluated)
      rintro (error | value) _ _ ⟨rfl, rfl⟩
      · exact recover_agree _
      · exact .pure ⟨rfl, rfl⟩

theorem evaluateAll_agree (stands : code.Stands definitions table) (entering : Entry.Agrees start table enter plain)
    {scope : Scope} {activation : Activation} (held : scope.Stands activation bound) (expressions : List Expr)
    {buffer : Buffer Value} {front : List Value} {ledger : Ledger}
    (listed : Listed (table ++ bound) buffer front ledger) :
    Agree start ledger (code.evaluateAll enter scope expressions buffer)
      (definitions.evaluateAll plain activation expressions)
      fun buffer values ledger => Listed (table ++ bound) buffer (front ++ values) ledger := by
  cases expressions with
  | nil => exact .pure ((List.append_nil front).symm ▸ listed)
  | cons e rest =>
      obtain ⟨part, placed, rfl⟩ := listed
      have first := ((evaluate_agree stands entering held e).frame part).perm List.perm_append_comm
      unfold evaluateAll Definitions.evaluateAll
      apply Agree.bind first
      rintro value _ _ ⟨_, ⟨rfl, rfl⟩, rfl⟩
      have again : Listed (table ++ bound) buffer front (part ++ (table ++ bound)) := ⟨part, placed, rfl⟩
      apply Agree.lone ((push_agree again value).perm List.perm_append_comm)
      intro next ledger pushed
      apply ((evaluateAll_agree stands entering held rest pushed).mapRight (value :: ·)).imp
      rintro last _ ledger ⟨values, rfl, whole⟩
      rw [List.append_assoc, List.singleton_append] at whole
      exact ⟨_, whole, .refl _⟩

end

/-! ## Statements -/

inductive Continues (base bound : Ledger) : Except RunError Scope → Except RunError Activation → Ledger → Prop
  | ok {scope : Scope} {activation : Activation} (held : scope.Stands activation bound) :
      Continues base bound (.ok scope) (.ok activation) base
  | error {error : RunError} : Continues base bound (.error error) (.error error) base

theorem execute_agree (stands : code.Stands definitions table) (entering : Entry.Agrees start table enter plain)
    {scope : Scope} {activation : Activation} (held : scope.Stands activation bound) (statement : Stmt) :
    Agree start (table ++ bound) (code.execute enter scope statement)
      (definitions.execute plain activation statement) (Continues (table ++ bound) bound) := by
  cases statement with
  | ret result =>
      cases result with
      | none => exact .pure (.ok ⟨held.bindings, held.result, rfl⟩)
      | some e =>
          apply Agree.bind (evaluate_agree stands entering held e)
          rintro value _ _ ⟨rfl, rfl⟩
          exact .pure (.ok ⟨held.bindings, rfl, rfl⟩)
  | call function arguments =>
      have evaluated := arguments_agree arguments.length fun buffer ledger listed =>
        evaluateAll_agree stands entering held arguments listed
      apply Agree.bind (call_agree stands entering function arguments.length evaluated)
      rintro (error | value) _ _ ⟨rfl, rfl⟩
      · exact .pure .error
      · exact .pure (.ok held)
  | declare name params body => exact .pure .error

theorem executeAll_agree (stands : code.Stands definitions table) (entering : Entry.Agrees start table enter plain)
    (statements : List Stmt) {scope : Scope} {activation : Activation} (held : scope.Stands activation bound) :
    Agree start (table ++ bound) (code.executeAll enter scope statements)
      (definitions.executeAll plain activation statements) (Continues (table ++ bound) bound) := by
  induction statements generalizing scope activation with
  | nil => exact .pure (.ok held)
  | cons statement rest ih =>
      apply Agree.bind (execute_agree stands entering held statement)
      intro outcome other ledger ended
      cases ended with
      | error => exact .pure .error
      | @ok next nextActivation nextHeld =>
          simp only [nextHeld.halted]
          split
          · exact .pure (.ok nextHeld)
          · exact ih nextHeld

/-! ## Functions -/

theorem activate_agree (stands : code.Stands definitions table) (entering : Entry.Agrees start table enter plain) :
    Entry.Agrees start table (code.activate enter) (definitions.activate plain) := by
  intro function values
  have bind := (Scope.fresh_triple function.params values).frame table
  apply Agree.lone (Agree.onMemory bind)
  rintro scope _ ⟨bound, held, rfl⟩
  apply Agree.bind ((executeAll_agree stands entering function.body held).perm List.perm_append_comm)
  intro outcome other ledger ended
  have dropped := (List.sublist_append_left table bound).subperm
  cases ended with
  | error => exact .drop ⟨rfl, rfl⟩ dropped
  | ok lastHeld => exact .drop ⟨by rw [lastHeld.result], rfl⟩ dropped

theorem enter_agree (stands : code.Stands definitions table) (depth : Nat) :
    Entry.Agrees start table (code.enter depth) (definitions.enter depth) := by
  induction depth with
  | zero => exact fun function values => .tooDeep
  | succ depth ih => exact activate_agree stands ih

theorem callEntryPoint_agree (stands : code.Stands definitions table) (entering : Entry.Agrees start table enter plain) :
    Agree start table (code.call enter entryPoint 0 (argumentBuffer 0)) (definitions.call plain entryPoint 0 (pure []))
      fun a b ledger => a = b ∧ ledger = table := by
  have none : Agree start (table ++ []) (argumentBuffer 0) (pure [] : WorldM σ (List Value))
      (Listed (table ++ [])) := by
    apply ((argumentBuffer_agree 0).mapRight fun _ => []).imp
    rintro buffer _ ledger ⟨_, rfl, listed⟩
    exact ⟨ledger, listed, .refl _⟩
  have calling := call_agree stands entering entryPoint 0 none
  rw [List.append_nil] at calling
  exact calling

theorem runWithin_agree (stands : code.Stands definitions table) (depth : Nat) :
    Agree start table (code.runWithin depth) (definitions.callEntryPoint depth)
      fun a b ledger => a = b ∧ ledger = table := by
  apply Agree.bind (callEntryPoint_agree stands (enter_agree stands depth))
  rintro (error | value) _ _ ⟨rfl, rfl⟩
  · exact .pure ⟨rfl, rfl⟩
  · simp only
    cases value.number? with
    | ok n => exact .pure ⟨rfl, rfl⟩
    | error mismatch => exact .pure ⟨rfl, rfl⟩

end Code

theorem Interpreter.runWithin_agree {σ : Type} [Writer σ] {start : Machine σ} {code : Code}
    {definitions : Definitions} {table : Ledger} (stands : code.Stands definitions table) (depth : Nat) :
    Agree start table (Interpreter.runWithin depth code) (definitions.runWithin depth)
      fun a b ledger => a = b ∧ ledger = table := by
  apply Agree.bind (Code.runWithin_agree stands depth)
  rintro result _ _ ⟨rfl, rfl⟩
  apply Agree.bind Agree.flush
  rintro _ _ _ rfl
  cases result with
  | error error => exact .pure ⟨rfl, rfl⟩
  | ok exitCode =>
      apply Agree.bind (Agree.note rfl rfl)
      rintro _ _ _ rfl
      exact .pure ⟨rfl, rfl⟩

end ArenaLang
