import ArenaLang.Proofs.ControlFlow
import ArenaLang.Proofs.Levels
import ArenaLang.Proofs.Substitution

namespace ArenaLang

/-! ## What calls cost -/

def Definitions.callBytes (definitions : Definitions) (scope : Nat → Nat) (call : String × Nat) : Nat :=
  match definitions.resolve call.1 with
  | none => 0
  | some (.native _) => 24 * call.2
  | some (.declared function) => if function.arity = call.2 then 24 * call.2 + scope call.2 else 0

def laidOut (scope : Nat → Nat) (acts : List Act) : Nat := (acts.map (Act.bytes scope)).sum

def Definitions.callsBytes (definitions : Definitions) (scope : Nat → Nat) (calls : List (String × Nat)) : Nat :=
  (calls.map (definitions.callBytes scope)).sum

theorem laidOut_append (scope : Nat → Nat) (acts more : List Act) :
    laidOut scope (acts ++ more) = laidOut scope acts + laidOut scope more := by
  rw [laidOut, List.map_append, List.sum_append]
  rfl

theorem Definitions.callsBytes_append (definitions : Definitions) (scope : Nat → Nat) (calls more : List (String × Nat)) :
    definitions.callsBytes scope (calls ++ more) = definitions.callsBytes scope calls + definitions.callsBytes scope more := by
  rw [callsBytes, List.map_append, List.sum_append]
  rfl

namespace Course

variable {κ ι : Type} {definitions : Definitions} {scope : Nat → Nat} {due : Nat} {course : Course κ} {left : κ → Nat}

/-- Whether a course lays out the bytes that were due before and those of its calls, but for those that
are left due at its end. -/
def Pays (definitions : Definitions) (scope : Nat → Nat) (due : Nat) (course : Course κ) (left : κ → Nat) : Prop :=
  ∀ k, course.ending = some k →
    due + definitions.callsBytes scope (course.acts.filterMap Act.call?) = laidOut scope course.acts + left k

theorem Pays.pure {k : κ} (same : due = left k) : Pays definitions scope due (pure k) left := by
  intro j ends
  cases ends
  exact same.trans (Nat.zero_add _).symm

theorem Pays.tooDeep : Pays definitions scope due (tooDeep : Course κ) left := by
  intro k ends
  cases ends

theorem Pays.bind {next : κ → Course ι} {last : ι → Nat} (first : Pays definitions scope due course left)
    (second : ∀ k, Pays definitions scope (left k) (next k) last) :
    Pays definitions scope due (course >>= next) last := by
  intro j ends
  cases reached : course.ending with
  | none =>
      rw [bind_of_none reached] at ends
      cases ends
  | some k =>
      rw [bind_of_some reached] at ends ⊢
      have before := first k reached
      have behind := second k j ends
      simp only [List.filterMap_append, definitions.callsBytes_append, laidOut_append]
      omega

theorem Pays.owing (pays : Pays definitions scope due course left) (more : Nat) :
    Pays definitions scope (due + more) course fun k => left k + more := by
  intro k ends
  have settled := pays k ends
  show due + more + _ = _ + (left k + more)
  omega

theorem Pays.called (name : String) (count : Nat) :
    Pays definitions scope 0 (take (.called name count)) fun _ => definitions.callBytes scope (name, count) := by
  intro k ends
  simp [Course.take, laidOut, Definitions.callsBytes, Act.call?, Act.bytes]

theorem Pays.listed (count : Nat) : Pays definitions scope (24 * count) (take (.listed count)) fun _ => 0 :=
  fun _ _ => rfl

theorem Pays.entered (params : List String) :
    Pays definitions scope (scope params.length) (take (.entered params)) fun _ => 0 :=
  fun _ _ => rfl

theorem Pays.free {act : Act} (uncalled : act.call? = none) (nothing : act.bytes scope = 0) :
    Pays definitions scope 0 (take act) fun _ => 0 := by
  intro _ _
  simp [Course.take, laidOut, Definitions.callsBytes, uncalled, nothing]

end Course

namespace Definitions

open Course

variable {definitions : Definitions} {scope : Nat → Nat} {way : Way}

theorem fail_pays (abort : Abort) : Pays definitions scope 0 (fail abort) fun _ => 0 :=
  (Pays.free rfl rfl).bind fun _ => .pure rfl

theorem courseOfCall_pays
    (entering : ∀ function : Declaration, Pays definitions scope (scope function.arity) (way function) fun _ => 0)
    (name : String) (count : Nat) {arguments : Course Unit}
    (paid : Pays definitions scope (24 * count) arguments fun _ => 0) :
    Pays definitions scope 0 (definitions.courseOfCall way name count arguments) fun _ => 0 := by
  unfold courseOfCall
  cases resolved : definitions.resolve name with
  | none => exact fail_pays _
  | some callee =>
      apply (Pays.called name count).bind
      intro _
      unfold callBytes
      simp only [resolved]
      cases callee with
      | native handler =>
          apply paid.bind
          intro _
          exact (Pays.free rfl rfl).bind fun _ => .pure rfl
      | declared function =>
          simp only
          split
          · rename_i arity
            have owing := paid.owing (scope count)
            rw [← arity] at owing ⊢
            apply owing.bind
            intro _
            rw [Nat.zero_add]
            exact entering function
          · exact fail_pays _

mutual

theorem courseOf_pays
    (entering : ∀ function : Declaration, Pays definitions scope (scope function.arity) (way function) fun _ => 0)
    (bound : List String) (e : Expr) : Pays definitions scope 0 (definitions.courseOf way bound e) fun _ => 0 := by
  cases e with
  | number n => exact .pure rfl
  | text s => exact .pure rfl
  | «variable» name =>
      unfold courseOf
      split
      · exact .pure rfl
      · exact (Pays.free rfl rfl).bind fun _ => .free rfl rfl
  | call function arguments =>
      unfold courseOf
      apply (courseOfCall_pays entering function _ (arguments_pay entering bound arguments)).bind
      intro outcome
      cases outcome with
      | ok _ => exact .pure rfl
      | error abort => exact .free rfl rfl

theorem arguments_pay
    (entering : ∀ function : Declaration, Pays definitions scope (scope function.arity) (way function) fun _ => 0)
    (bound : List String) (arguments : List Expr) :
    Pays definitions scope (24 * arguments.length)
      (do
        Course.take (.listed arguments.length)
        definitions.courseOfAll way bound arguments)
      fun _ => 0 :=
  (Pays.listed arguments.length).bind fun _ => courseOfAll_pays entering bound arguments

theorem courseOfAll_pays
    (entering : ∀ function : Declaration, Pays definitions scope (scope function.arity) (way function) fun _ => 0)
    (bound : List String) (expressions : List Expr) :
    Pays definitions scope 0 (definitions.courseOfAll way bound expressions) fun _ => 0 := by
  cases expressions with
  | nil => exact .pure rfl
  | cons e rest =>
      unfold courseOfAll
      exact (courseOf_pays entering bound e).bind fun _ => courseOfAll_pays entering bound rest

end

theorem courseOfBody_pays
    (entering : ∀ function : Declaration, Pays definitions scope (scope function.arity) (way function) fun _ => 0)
    (bound : List String) (statements : List Stmt) :
    Pays definitions scope 0 (definitions.courseOfBody way bound statements) fun _ => 0 := by
  induction statements with
  | nil => exact .pure rfl
  | cons statement rest ih =>
      cases statement with
      | ret result =>
          cases result with
          | none => exact .pure rfl
          | some e => exact (courseOf_pays entering bound e).bind fun _ => .pure rfl
      | declare name params body => exact fail_pays _
      | call function arguments =>
          apply (courseOfCall_pays entering function _ (arguments_pay entering bound arguments)).bind
          intro outcome
          cases outcome with
          | ok _ => exact ih
          | error abort => exact .pure rfl

theorem courseWithin_pays (definitions : Definitions) (scope : Nat → Nat) (depth : Nat) (function : Declaration) :
    Pays definitions scope (scope function.arity) (definitions.courseWithin depth function) fun _ => 0 := by
  induction depth generalizing function with
  | zero => exact .tooDeep
  | succ depth ih => exact (Pays.entered function.params).bind fun _ => courseOfBody_pays ih _ _

theorem course_pays (definitions : Definitions) (scope : Nat → Nat) :
    Pays definitions scope 0 definitions.course fun _ => 0 :=
  courseOfCall_pays (definitions.courseWithin_pays scope _) _ _ (.listed 0)

theorem callsBytes_course (definitions : Definitions) (scope : Nat → Nat) {k : Except Abort Unit}
    (ending : definitions.course.ending = some k) :
    definitions.callsBytes scope (definitions.course.acts.filterMap Act.call?) = laidOut scope definitions.course.acts := by
  have paid : 0 + _ = _ + 0 := definitions.course_pays scope k ending
  rwa [Nat.zero_add, Nat.add_zero] at paid

end Definitions

/-! ## Calls without arguments -/

theorem scopeRoom_eq_zero_iff {count : Nat} : scopeRoom count = 0 ↔ count = 0 := by
  constructor
  · intro none
    have enough := (isLeast_scopeRoom count).1.2 count (List.mem_singleton.mpr rfl)
    omega
  · rintro rfl
    rfl

theorem Act.effect_of_no_bytes {act : Act} (nothing : act.bytes leastScope = 0) {arena : Arena} :
    act.effect arena.outline = some arena.outline := by
  cases act with
  | listed count =>
      have none : 24 * count = 0 := nothing
      obtain rfl : count = 0 := by omega
      exact congrArg some arena.outline_outline
  | entered params =>
      have none : 40 * scopeRoom params.length = 0 := nothing
      have empty : scopeRoom params.length = 0 := by omega
      rw [List.eq_nil_of_length_eq_zero (scopeRoom_eq_zero_iff.mp empty)]
      exact congrArg some arena.outline_outline
  | called => rfl
  | performed => rfl
  | failed => rfl
  | reported => rfl

theorem Arena.replay_of_no_bytes {acts : List Act} (nothing : laidOut leastScope acts = 0) {arena : Arena} :
    arena.outline.replay acts = some arena.outline := by
  induction acts with
  | nil => rfl
  | cons act rest ih =>
      rw [laidOut, List.map_cons, List.sum_cons, Nat.add_eq_zero_iff] at nothing
      rw [replay, List.foldlM_cons, Act.effect_of_no_bytes nothing.1]
      exact ih nothing.2

theorem Definitions.callBytes_of_no_arguments (definitions : Definitions) {call : String × Nat} (none : call.2 = 0) :
    definitions.callBytes leastScope call = 0 := by
  unfold callBytes
  rw [none]
  split
  · rfl
  · rfl
  · split <;> rfl

theorem Definitions.callsBytes_of_no_arguments (definitions : Definitions) {calls : List (String × Nat)}
    (none : ∀ call ∈ calls, call.2 = 0) : definitions.callsBytes leastScope calls = 0 := by
  apply List.sum_eq_zero_iff_forall_eq_nat.mpr
  intro bytes member
  obtain ⟨call, listed, rfl⟩ := List.mem_map.mp member
  exact definitions.callBytes_of_no_arguments (none call listed)

/-! ## Lists of arguments -/

theorem RunM.bind_done {σ α β : Type} {step : RunM σ α} {next : α → RunM σ β} {machine after : Machine σ} {b : β}
    (done : (step >>= next) machine = (.ok b, after)) :
    ∃ a middle, step machine = (.ok a, middle) ∧ next a middle = (.ok b, after) := by
  rw [bind_apply] at done
  rcases stepped : step machine with ⟨stop | a, middle⟩
  · rw [stepped] at done
    cases done
  · rw [stepped] at done
    exact ⟨a, middle, rfl, done⟩

namespace Code

open RunM

variable {σ : Type} [Writer σ] {code : Code} {enter : Entry σ} {scope : Scope}

theorem evaluateAll_keeps {expressions : List Expr} {buffer filled : Buffer Value} {machine after : Machine σ}
    (room : buffer.length + expressions.length ≤ buffer.capacity)
    (done : code.evaluateAll enter scope expressions buffer machine = (.ok filled, after)) :
    filled = { buffer with length := buffer.length + expressions.length } := by
  induction expressions generalizing buffer machine with
  | nil =>
      cases done
      rfl
  | cons e rest ih =>
      rw [List.length_cons] at room ⊢
      rw [evaluateAll] at done
      obtain ⟨value, between, _, others⟩ := bind_done done
      obtain ⟨next, middle, pushed, behind⟩ := bind_done others
      obtain ⟨memory, roomy, _⟩ := @Buffer.push_of_room _ _ value buffer (by omega) between.memory
      rw [onMemory, roomy] at pushed
      cases pushed
      have last := ih (by simp only; omega) behind
      rw [last, Nat.add_assoc, Nat.add_comm 1]

theorem argumentList_done {arguments : List Expr} {filled : Buffer Value} {machine after : Machine σ}
    (done : code.argumentList enter scope arguments machine = (.ok filled, after)) :
    ∃ made between, argumentBuffer arguments.length machine = (.ok made, between) ∧
      filled = { made with length := arguments.length } := by
  obtain ⟨made, between, laid, evaluated⟩ := bind_done done
  have yields := Buffer.withCapacity_yields (α := Value) arguments.length (by decide) machine.memory made
  have answered : (Buffer.withCapacity arguments.length machine.memory).1 = .ok made := by
    rw [argumentBuffer, onMemory] at laid
    split at laid
    · rename_i found
      cases laid
      exact congrArg Prod.fst found
    · cases laid
  obtain ⟨empty, capacity⟩ := yields answered
  have last := evaluateAll_keeps (by omega) evaluated
  rw [empty, Nat.zero_add] at last
  exact ⟨made, between, laid, last⟩

end Code

/-! ## Runs -/

theorem World.calls_concluded {σ : Type} [Writer σ] (verdict : Except RunError Int) (world : World σ) :
    (world.concluded verdict).calls = world.calls := by
  have reports (reported : List Diagnostic) : (reported.map Event.reported).filterMap Event.call? = [] := by
    simp [Event.call?]
  have exits : (World.exits verdict).filterMap Event.call? = [] := by
    cases verdict <;> rfl
  rw [concluded_eq, calls, List.filterMap_append, List.filterMap_append, reports, exits, List.append_nil, List.append_nil]
  rfl

theorem Rises.regions {before after : Arena} {least most : Nat} (rises : Rises before.cursors after.cursors least most)
    {index : Nat} {region : Region} (held : before.regions[index]? = some region) :
    ∃ other, after.regions[index]? = some other ∧ region.cursor ≤ other.cursor := by
  obtain ⟨higher, found, above⟩ := rises.kept index region.cursor (Arena.getElem?_cursors held)
  rw [Arena.cursors, List.getElem?_map] at found
  obtain ⟨other, there, rfl⟩ := Option.map_eq_some_iff.mp found
  exact ⟨other, there, above⟩

theorem Rises.used {before after : Arena} {least most : Nat} (rises : Rises before.cursors after.cursors least most) :
    before.stats.used + least ≤ after.stats.used ∧
      after.stats.used ≤ before.stats.used + most + 7 * before.stats.regions := by
  have used (arena : Arena) : arena.stats.used = arena.cursors.sum := arena.used_eq_sum
  have regions : before.stats.regions = before.cursors.length := by
    simp only [Arena.stats, Arena.cursors, List.length_map]
  have lower := sum_le_level after.cursors
  have upper := level_le before.cursors
  have higher := rises.least
  have bounded := rises.most
  rw [used, used, regions]
  omega

/-- A run lowers no cursor, and takes from its arena at least what its calls must have, and at most what
they ever lay out, with fewer than eight bytes more for each region that there was. A run of calls
without arguments leaves the arena as it was, but for its contents, and a list of arguments is never
moved. -/
theorem footprint_follows_calls {σ : Type} [Writer σ] {definitions : Definitions} {interpreter after : Interpreter σ}
    {result : Except RunError Int} (serves : interpreter.Serves definitions)
    (ended : interpreter.run = (.ok result, after)) :
    let before := interpreter.machine.memory
    let behind := after.machine.memory
    (∃ events, behind.log.ofRun = before.log.ofRun ++ events ∧
      let calls := events.filterMap Event.call?
      (∀ (index : Nat) (region : Region), before.arena.regions[index]? = some region →
        ∃ other, behind.arena.regions[index]? = some other ∧ region.cursor ≤ other.cursor) ∧
      before.arena.stats.used + definitions.callsBytes leastScope calls ≤ behind.arena.stats.used ∧
      behind.arena.stats.used ≤
        before.arena.stats.used + definitions.callsBytes mostScope calls + 7 * before.arena.stats.regions ∧
      ((∀ call ∈ calls, call.2 = 0) → behind.arena.outline = before.arena.outline)) ∧
    ∀ (enter : Code.Entry σ) (scope : Scope) (arguments : List Expr) (machine last : Machine σ) (filled : Buffer Value),
      interpreter.code.argumentList enter scope arguments machine = (.ok filled, last) →
        ∃ made between, Code.argumentBuffer arguments.length machine = (.ok made, between) ∧
          filled = { made with length := arguments.length } := by
  intro before behind
  obtain ⟨outcome, k, world, ending, _, _, _, took⟩ := Interpreter.run_took serves ended
  obtain ⟨table, _, holds⟩ := serves
  refine ⟨⟨(world.concluded result).events, took.shows.events, ?_⟩, ?_⟩
  · have calls : (world.concluded result).events.filterMap Event.call? =
        definitions.course.acts.filterMap Act.call? :=
      (world.calls_concluded result).trans took.goes.calls
    have rises := Arena.replay_rises (holds.sound.outline #[]) took.replayed
    rw [Arena.cursors_outline, Arena.cursors_outline] at rises
    have bytes (scope : Nat → Nat) := definitions.callsBytes_course scope ending
    simp only [calls, bytes]
    refine ⟨fun index region held => rises.regions held, rises.used.1, rises.used.2, fun none => ?_⟩
    have nothing : laidOut leastScope definitions.course.acts = 0 :=
      (bytes leastScope).symm.trans (definitions.callsBytes_of_no_arguments none)
    exact Option.some.inj (took.replayed.symm.trans (Arena.replay_of_no_bytes nothing))
  · intro enter scope arguments machine last filled done
    exact Code.argumentList_done done

def Program.widening : Program :=
  [.declare "main" [] [.call "f" (List.replicate 5 (.text "a")), .ret (some (.number .zero))],
    .declare "f" ["a", "b", "c", "d", "e"] []]

theorem footprint_follows_calls_widening :
    ∃ (interpreter : Interpreter OutputStream) (result : Except RunError Int) (after : Interpreter OutputStream),
      Interpreter.create .small OutputStream.unbounded .collecting .standard .widening = .ok interpreter ∧
      interpreter.run = (.ok result, after) ∧
      interpreter.machine.memory.arena.stats.used + 440 ≤ after.machine.memory.arena.stats.used ∧
      after.machine.memory.arena.stats.used ≤
        interpreter.machine.memory.arena.stats.used + 600 + 7 * interpreter.machine.memory.arena.stats.regions := by
  let definitions := Program.widening.definitions .standard
  have works : (Interpreter.create .small OutputStream.unbounded .collecting .standard .widening).toOption.any
      (fun interpreter => interpreter.run.1.toOption.isSome ∧
        interpreter.machine.memory.log.ofRun.filterMap Event.call? = [] ∧
        interpreter.run.2.machine.memory.log.ofRun.filterMap Event.call? = [("main", 0), ("f", 5)]) = true := by
    decide +kernel
  have sound := (Memory.create_holds System.paged_sound Memory.small_created).sound
  obtain ⟨interpreter, created, answered, before, behind⟩ := exists_ok_of_any works
  rcases ran : interpreter.run with ⟨stop | result, after⟩
  · rw [ran] at answered
    cases answered
  · rw [ran] at behind
    obtain ⟨⟨events, logged, _, least, most, _⟩, _⟩ :=
      footprint_follows_calls (Interpreter.create_serves sound created) ran
    have calls : events.filterMap Event.call? = [("main", 0), ("f", 5)] := by
      rw [← behind, logged, List.filterMap_append, before, List.nil_append]
    have fewest : definitions.callsBytes leastScope [("main", 0), ("f", 5)] = 440 := by decide +kernel
    have greatest : definitions.callsBytes mostScope [("main", 0), ("f", 5)] = 600 := by decide +kernel
    rw [calls, fewest] at least
    rw [calls, greatest] at most
    exact ⟨interpreter, result, after, created, ran, least, most⟩

end ArenaLang
