import ArenaLang.Proofs.Building
import ArenaLang.Proofs.IndependentLists
import ArenaLang.Proofs.LifeCycle

namespace ArenaLang

def Host.on (memory : Memory) (host : Host) : Host := { host with client := { host.client with memory } }

structure Recording where
  code : Code
  program : Program
  natives : Registry

structure Site : Type 1 where
  host : Host
  built : List Built
  recordings : List Recording

namespace Site

def start (memory : Memory) : Site := ⟨Host.start memory, [], []⟩

def memory (site : Site) : Memory := site.host.client.memory

inductive Step (site : Site) : Site → Prop
  | hosted {host : Host} (step : site.host.Step host) : Step site { site with host }
  | built {construction : Construction} {built : Built} {memory : Memory} (known : construction.parts ⊆ site.built)
      (done : construction.run site.memory = (.ok built, memory)) :
      Step site { site with host := site.host.on memory, built := built :: site.built }
  | created {σ : Type} {output : σ} {sink : Sink} {natives : Registry} {program : Program}
      {interpreter : Interpreter σ}
      (created : Interpreter.create site.memory output sink natives program = .ok interpreter) :
      Step site { site with
        host := site.host.on interpreter.machine.memory
        recordings := ⟨interpreter.code, program, natives⟩ :: site.recordings }
  | ran {σ : Type} [Writer σ] {recording : Recording} {current after : Interpreter σ}
      {result : Except RunError Int} (recorded : recording ∈ site.recordings) (code : current.code = recording.code)
      (shared : current.machine.memory = site.memory) (advances : current.Advances result after) :
      Step site { site with host := site.host.on after.machine.memory }

abbrev Reaches : Site → Site → Prop := Relation.ReflTransGen Step

/-- What holds of a site for good, and what can be done next. -/
structure Lasts (site : Site) : Prop where
  reads : ∀ later, site.Reaches later → ∀ built ∈ site.built, built.Reads later.memory
  functions : ∀ later, site.Reaches later → ∀ recording ∈ site.recordings,
    ∀ {σ : Type} (interpreter : Interpreter σ), interpreter.code = recording.code →
      interpreter.functions later.memory = (.ok recording.program.declarations, later.memory)
  builds : ∀ construction : Construction, construction.parts ⊆ site.built →
    (∃ refusal, (construction.run site.memory).1 = .error (.refused refusal)) ∨
      ∃ built next, construction.run site.memory = (.ok built, next.memory) ∧ site.Step next ∧ built ∈ next.built
  stores : ∀ program : Program,
    (∃ refusal, (program.store site.memory).1 = .error (.refused refusal)) ∨
      ∃ stored next, program.store site.memory = (.ok stored, next.memory) ∧ site.Reaches next ∧
        .program stored program ∈ next.built ∧
        ∀ later, next.Reaches later → stored.load later.memory = (.ok program, later.memory)
  creates : ∀ {σ : Type} (output : σ) (sink : Sink) (natives : Registry) (program : Program),
    (∃ refusal, Interpreter.create site.memory output sink natives program = .error (.refused refusal)) ∨
      ∃ interpreter next, Interpreter.create site.memory output sink natives program = .ok interpreter ∧
        next.memory = interpreter.machine.memory ∧ site.Step next ∧
        ⟨interpreter.code, program, natives⟩ ∈ next.recordings ∧
        ∀ later, next.Reaches later →
          interpreter.functions later.memory = (.ok program.declarations, later.memory)
  runs : ∀ {σ : Type} [Writer σ] (current : Interpreter σ), ∀ recording ∈ site.recordings,
    current.code = recording.code → current.machine.memory = site.memory →
      (∃ refusal, current.run.1 = .error (.memory (.refused refusal))) ∨ current.run.1 = .error .nestedTooDeep ∨
        ∃ result next, current.run.1 = .ok result ∧ next.memory = current.run.2.machine.memory ∧ site.Step next

end Site

/-! ## The invariant -/

theorem Host.SoundBeside.own {host : Host} {frame : Ledger} (sound : host.SoundBeside frame) :
    ∃ own, host.client.memory.Holds (frame ++ own) ∧
      ∀ memory other, memory.Holds (other ++ own) → (host.on memory).SoundBeside other := by
  obtain ⟨slots, store, ledgers, keeps⟩ := sound
  have turned (other : Ledger) : (slots.reduceOption ++ (ledgers.flatten ++ other)).Perm
      (other ++ (slots.reduceOption ++ ledgers.flatten)) := by
    rw [← List.append_assoc]
    exact List.perm_append_comm
  refine ⟨_, keeps.agrees.holds.perm (turned frame), fun memory other holds => ?_⟩
  exact ⟨slots, store, ledgers, keeps.standing, keeps.agrees.blocks, keeps.agrees.contents,
    holds.perm (turned other).symm⟩

def Recording.Stands (ledger : Ledger) (recording : Recording) : Prop :=
  ∃ table, recording.code.Stands (recording.program.definitions recording.natives) table ∧ table.Subperm ledger

theorem Recording.Stands.mono {ledger more : Ledger} {recording : Recording} (stands : recording.Stands ledger)
    (sublist : ledger.Sublist more) : recording.Stands more := by
  obtain ⟨table, stands, part⟩ := stands
  exact ⟨table, stands, part.trans sublist.subperm⟩

theorem Recording.Stands.functions {ledger : Ledger} {recording : Recording} {memory : Memory}
    (stands : recording.Stands ledger) (holds : memory.Holds ledger) :
    recording.code.functions.toList memory = (.ok recording.program.declarations, memory) := by
  obtain ⟨table, stands, part⟩ := stands
  exact stands.functions.loads memory (holds.subperm part)

theorem exists_perm_append {α : Type} {part whole : List α} (subperm : part.Subperm whole) :
    ∃ rest, whole.Perm (part ++ rest) := by
  obtain ⟨other, same, sublist⟩ := subperm
  obtain ⟨rest, split⟩ := sublist.exists_perm_append
  exact ⟨rest, split.trans (same.append_right rest)⟩

theorem Interpreter.Advances.holds {σ : Type} [Writer σ] {definitions : Definitions} {table frame : Ledger}
    {current after : Interpreter σ} {result : Except RunError Int} (stands : current.code.Stands definitions table)
    (holds : current.machine.memory.Holds (table ++ frame)) (advances : current.Advances result after) :
    after.machine.memory.Holds (table ++ frame) := by
  obtain running | ⟨running, ended⟩ := advances
  · exact run_holds stands holds running
  · obtain ⟨_, _, again, _, rfl⟩ := execute_ended ended
    rw [running] at again
    cases again
    exact (run_holds stands holds running).of_arena_eq (Machine.closed_arena result _)

namespace Site

structure Keeps (site : Site) (ledger : Ledger) : Prop where
  host : site.host.SoundBeside ledger
  built : ∀ built ∈ site.built, built.Stands ledger
  recordings : ∀ recording ∈ site.recordings, recording.Stands ledger

variable {site next later : Site} {ledger : Ledger}

theorem start_keeps {memory : Memory} (holds : memory.Holds []) : (start memory).Keeps [] :=
  ⟨Host.sound_iff.mp (Host.start_sound holds), by simp [start], by simp [start]⟩

theorem Keeps.holds (keeps : site.Keeps ledger) : site.memory.Holds ledger := by
  obtain ⟨own, holds, _⟩ := keeps.host.own
  exact holds.left

/-- A step gives back nothing of what anything stands with. -/
theorem Step.keeps (keeps : site.Keeps ledger) (step : Step site next) :
    ∃ more, ledger.Sublist more ∧ next.Keeps more := by
  obtain ⟨own, holds, back⟩ := keeps.host.own
  cases step with
  | hosted step => exact ⟨ledger, .refl _, step.soundBeside keeps.host, keeps.built, keeps.recordings⟩
  | @built construction built memory known done =>
      have outcome := Construction.run_triple (fun part member => keeps.built part (known member)) own _ holds
      unfold Site.memory at done
      rw [done] at outcome
      obtain @⟨_, _, more, _, ⟨stands, grows⟩, held⟩ := outcome
      refine ⟨more, grows, back _ _ held, ?_, fun recording member => (keeps.recordings recording member).mono grows⟩
      rintro other (_ | ⟨_, member⟩)
      · exact stands
      · exact (keeps.built other member).mono grows
  | created created =>
      obtain ⟨table, stands, held, _⟩ := Interpreter.create_stands holds created
      have grows := List.sublist_append_right table ledger
      rw [← List.append_assoc] at held
      refine ⟨table ++ ledger, grows, back _ _ held, fun built member => (keeps.built built member).mono grows, ?_⟩
      rintro other (_ | ⟨_, member⟩)
      · exact ⟨table, stands, (List.sublist_append_left table ledger).subperm⟩
      · exact (keeps.recordings other member).mono grows
  | @ran σ _ recording current after result recorded code shared advances =>
      obtain ⟨table, stands, part⟩ := keeps.recordings recording recorded
      obtain ⟨rest, split⟩ := exists_perm_append part
      -- The run needs its table in front; trees, other tables and the host are what it leaves alone.
      have split := split.append_right own
      rw [List.append_assoc] at split
      have front : current.machine.memory.Holds (table ++ (rest ++ own)) := shared ▸ holds.perm split
      have held := advances.holds (code ▸ stands) front
      exact ⟨ledger, .refl _, back _ _ (held.perm split.symm), keeps.built, keeps.recordings⟩

theorem Reaches.keeps (reaches : site.Reaches next) (keeps : site.Keeps ledger) :
    ∃ more, ledger.Sublist more ∧ next.Keeps more := by
  induction reaches with
  | refl => exact ⟨ledger, .refl _, keeps⟩
  | tail _ step ih =>
      obtain ⟨middle, grown, keeps⟩ := ih
      obtain ⟨more, grows, keeps⟩ := step.keeps keeps
      exact ⟨more, grown.trans grows, keeps⟩

end Site

/-! ## Whole programs -/

/-- Whether a step on memory is composed of calls of a builder, which start from nodes that are known
and lead to new ones. -/
def Composed {α : Type} (known : List Built) (step : MemoryM α) (gives : α → List Built → Prop) : Prop :=
  ∀ (site : Site) (a : α) (memory : Memory), known ⊆ site.built → step site.memory = (.ok a, memory) →
    ∃ new next, gives a new ∧ site.Reaches next ∧ next.memory = memory ∧ site.built ⊆ next.built ∧ new ⊆ next.built

namespace Composed

variable {α β : Type} {known : List Built} {step : MemoryM α} {gives : α → List Built → Prop}

theorem pure {a : α} {new : List Built} (given : gives a new) (listed : new ⊆ known) :
    Composed known (Pure.pure a) gives := by
  intro site _ _ before done
  cases done
  exact ⟨new, site, given, .refl, rfl, List.Subset.refl _, List.Subset.trans listed before⟩

theorem bind {next : α → MemoryM β} {last : β → List Built → Prop} (first : Composed known step gives)
    (second : ∀ a new, gives a new → Composed (new ++ known) (next a) last) : Composed known (step >>= next) last := by
  intro site b memory before done
  obtain ⟨a, middle, stepped, ended⟩ := MemoryM.bind_done done
  obtain ⟨new, through, given, reaches, rfl, kept, listed⟩ := first site a middle before stepped
  have all : new ++ known ⊆ through.built := List.append_subset.mpr ⟨listed, List.Subset.trans before kept⟩
  obtain ⟨others, final, given, reached, same, still, found⟩ := second a new given through b memory all ended
  exact ⟨others, final, given, reaches.trans reached, same, List.Subset.trans kept still, found⟩

theorem call (construction : Construction) {make : α → Built} (listed : construction.parts ⊆ known)
    (same : construction.run = do return make (← step)) :
    Composed known step fun a new => new = [make a] := by
  intro site a memory before done
  have ran : construction.run site.memory = (.ok (make a), memory) := by
    rw [same, MemoryM.bind_ok done]
    rfl
  have stepped := Site.Step.built (List.Subset.trans listed before) ran
  exact ⟨_, _, rfl, .single stepped, rfl, List.subset_cons_self _ _, by simp⟩

end Composed

def Listed {α β : Type} (make : α → β → Built) (trees : List β) (nodes : List α) (new : List Built) : Prop :=
  ∃ pairs : List (α × β), pairs.map Prod.fst = nodes ∧ pairs.map Prod.snd = trees ∧
    new = pairs.map (Function.uncurry make)

theorem Composed.cons {α β : Type} {make : α → β → Built} {tree : β} {trees : List β} {known : List Built}
    {first : MemoryM α} {others : MemoryM (List α)} (one : Composed known first fun node new => new = [make node tree])
    (rest : ∀ node, Composed (make node tree :: known) others (Listed make trees)) :
    Composed known
      (do
        let node ← first
        return node :: (← others))
      (Listed make (tree :: trees)) := by
  apply one.bind
  rintro node _ rfl
  apply (rest node).bind
  rintro _ _ ⟨pairs, rfl, rfl, rfl⟩
  apply Composed.pure ⟨(node, tree) :: pairs, rfl, rfl, rfl⟩
  simp

mutual

theorem Expr.store_composed (e : Expr) (known : List Built) :
    Composed known e.store fun node new => new = [.expression node e] := by
  cases e with
  | number n => exact .call (.number n) (List.nil_subset _) rfl
  | text s => exact .call (.text s) (List.nil_subset _) rfl
  | «variable» s => exact .call (.ident s) (List.nil_subset _) rfl
  | call function arguments =>
      unfold Expr.store
      apply (Expr.storeAll_composed arguments known).bind
      rintro _ _ ⟨pairs, rfl, rfl, rfl⟩
      exact .call (.call function pairs) (List.subset_append_left _ _) rfl

theorem Expr.storeAll_composed (expressions : List Expr) (known : List Built) :
    Composed known (Expr.storeAll expressions) (Listed .expression expressions) := by
  cases expressions with
  | nil => exact .pure ⟨[], rfl, rfl, rfl⟩ (List.nil_subset _)
  | cons e rest =>
      unfold Expr.storeAll
      exact .cons (Expr.store_composed e known) fun node => Expr.storeAll_composed rest _

end

mutual

theorem Stmt.store_composed (statement : Stmt) (known : List Built) :
    Composed known statement.store fun node new => new = [.statement node statement] := by
  cases statement with
  | declare name params body =>
      unfold Stmt.store
      apply (Stmt.storeAll_composed body known).bind
      rintro _ _ ⟨pairs, rfl, rfl, rfl⟩
      exact .call (.declaration name params pairs) (List.subset_append_left _ _) rfl
  | ret result =>
      cases result with
      | none => exact .call (.ret none) (List.nil_subset _) rfl
      | some e =>
          apply (Expr.store_composed e known).bind
          rintro node _ rfl
          exact .call (.ret (some (node, e))) (by simp [Construction.parts]) rfl
  | call function arguments =>
      unfold Stmt.store
      apply (Expr.storeAll_composed arguments known).bind
      rintro _ _ ⟨pairs, rfl, rfl, rfl⟩
      exact .call (.callStatement function pairs) (List.subset_append_left _ _) rfl

theorem Stmt.storeAll_composed (statements : List Stmt) (known : List Built) :
    Composed known (Stmt.storeAll statements) (Listed .statement statements) := by
  cases statements with
  | nil => exact .pure ⟨[], rfl, rfl, rfl⟩ (List.nil_subset _)
  | cons statement rest =>
      unfold Stmt.storeAll
      exact .cons (Stmt.store_composed statement known) fun node => Stmt.storeAll_composed rest _

end

theorem Program.store_composed (program : Program) (known : List Built) :
    Composed known program.store fun stored new => new = [.program stored program] := by
  apply (Stmt.storeAll_composed program known).bind
  rintro _ _ ⟨pairs, rfl, rfl, rfl⟩
  exact .call (.program pairs) (List.subset_append_left _ _) rfl

/-! ## From now on -/

namespace Interpreter

variable {σ : Type} {memory : Memory} {table ledger : Ledger}

theorem create_ends (holds : memory.Holds ledger) (output : σ) (sink : Sink) (natives : Registry)
    (program : Program) :
    (∃ refusal, create memory output sink natives program = .error (.refused refusal)) ∨
      ∃ interpreter, create memory output sink natives program = .ok interpreter := by
  have outcome := Buffer.pushAll_triple Buffer.empty_stands program.declarations ledger memory holds
  simp only [create, ExceptT.run, record, MemoryM.bind_apply]
  generalize (Buffer.empty.pushAll program.declarations) memory = result at outcome ⊢
  cases outcome with
  | done _ _ _ => exact .inr ⟨_, rfl⟩
  | refused _ _ => exact .inl ⟨_, rfl⟩

theorem run_ends [Writer σ] {definitions : Definitions} {interpreter : Interpreter σ}
    (stands : interpreter.code.Stands definitions table)
    (holds : interpreter.machine.memory.Holds (table ++ ledger)) :
    (∃ refusal, interpreter.run.1 = .error (.memory (.refused refusal))) ∨
      interpreter.run.1 = .error .nestedTooDeep ∨ ∃ result, interpreter.run.1 = .ok result := by
  have ends := run_endsLike stands holds (.start interpreter.machine)
  generalize interpreter.run.1 = result at ends ⊢
  generalize definitions.runWithin _ (⟨interpreter.machine.output, []⟩ : World σ) = answer at ends
  cases ends with
  | done _ _ _ => exact .inr (.inr ⟨_, rfl⟩)
  | refused _ => exact .inl ⟨_, rfl⟩
  | tooDeep _ => exact .inr (.inl rfl)

end Interpreter

namespace Site

variable {site next : Site} {ledger : Ledger}

theorem Step.grows (step : Step site next) : site.built ⊆ next.built ∧ site.recordings ⊆ next.recordings := by
  cases step with
  | hosted _ | ran _ _ _ _ => exact ⟨List.Subset.refl _, List.Subset.refl _⟩
  | built _ _ => exact ⟨List.subset_cons_self _ _, List.Subset.refl _⟩
  | created _ => exact ⟨List.Subset.refl _, List.subset_cons_self _ _⟩

theorem Reaches.grows (reaches : site.Reaches next) :
    site.built ⊆ next.built ∧ site.recordings ⊆ next.recordings := by
  induction reaches with
  | refl => exact ⟨List.Subset.refl _, List.Subset.refl _⟩
  | tail _ step ih => exact ⟨List.Subset.trans ih.1 step.grows.1, List.Subset.trans ih.2 step.grows.2⟩

theorem Keeps.reads (keeps : site.Keeps ledger) {built : Built} (member : built ∈ site.built)
    (reaches : site.Reaches next) : built.Reads next.memory := by
  obtain ⟨more, _, keeping⟩ := reaches.keeps keeps
  exact (keeping.built built (reaches.grows.1 member)).reads keeping.holds

theorem Keeps.functions (keeps : site.Keeps ledger) {recording : Recording} (member : recording ∈ site.recordings)
    (reaches : site.Reaches next) :
    recording.code.functions.toList next.memory = (.ok recording.program.declarations, next.memory) := by
  obtain ⟨more, _, keeping⟩ := reaches.keeps keeps
  exact (keeping.recordings recording (reaches.grows.2 member)).functions keeping.holds

theorem Keeps.lasts (keeps : site.Keeps ledger) : site.Lasts where
  reads := fun later reaches built member => keeps.reads member reaches
  functions := by
    intro later reaches recording member σ interpreter code
    rw [Interpreter.functions, code]
    exact keeps.functions member reaches
  builds := by
    intro construction known
    have triple := Construction.run_triple fun part member => keeps.built part (known member)
    have holds : site.memory.Holds (ledger ++ []) := (List.append_nil ledger).symm ▸ keeps.holds
    refine (triple.ends holds).imp id ?_
    rintro ⟨built, memory, done⟩
    let next : Site := { site with host := site.host.on memory, built := built :: site.built }
    exact ⟨built, next, done, .built known done, List.mem_cons_self⟩
  stores := by
    intro program
    refine ((Program.store_triple program).ends keeps.holds).imp id ?_
    rintro ⟨stored, memory, done⟩
    obtain ⟨_, next, rfl, reaches, rfl, _, listed⟩ :=
      Program.store_composed program [] site stored memory (List.nil_subset _) done
    obtain ⟨_, _, keeping⟩ := reaches.keeps keeps
    have member := listed List.mem_cons_self
    exact ⟨stored, next, done, reaches, member, fun later => keeping.reads member⟩
  creates := by
    intro σ output sink natives program
    refine (Interpreter.create_ends keeps.holds output sink natives program).imp id ?_
    rintro ⟨interpreter, created⟩
    have step := Step.created created
    obtain ⟨_, _, keeping⟩ := step.keeps keeps
    exact ⟨interpreter, _, created, rfl, step, List.mem_cons_self, fun later => keeping.functions List.mem_cons_self⟩
  runs := by
    intro σ _ current recording recorded code shared
    obtain ⟨table, stands, part⟩ := keeps.recordings recording recorded
    obtain ⟨rest, split⟩ := exists_perm_append part
    have front : current.machine.memory.Holds (table ++ rest) := shared ▸ keeps.holds.perm split
    refine (Interpreter.run_ends (code ▸ stands) front).imp id (Or.imp id ?_)
    rintro ⟨result, ended⟩
    have advances : current.Advances result current.run.2 := .run (Prod.ext ended rfl)
    exact ⟨result, _, ended, rfl, .ran recorded code shared advances⟩

end Site

/-- Whatever happens in an arena, trees that builders put into it read back as they were, from every
later state too, and so do the functions of interpreters; nothing but a refusal keeps a program from
being put there and recorded. -/
theorem trees_stay {system : System} {options : Options} {request : Nat} {memory : Memory} {site : Site}
    (sound : system.Sound) (created : Memory.create system options request = .ok memory)
    (reaches : (Site.start memory).Reaches site) : site.Lasts := by
  obtain ⟨_, _, keeps⟩ := reaches.keeps (Site.start_keeps (Memory.create_holds sound created))
  exact keeps.lasts

/-- A program that lies in a small arena, which grew under it when it was recorded and run there. -/
theorem trees_stay_ran :
    let program : Program :=
      [.declare "last" ["a", "b"] [.ret (some (.variable "b"))],
        .declare "main" [] [.call "print" [.text "c"], .ret (some (.call "last" [.text "d", .number .zero]))]]
    System.paged.Sound ∧ Memory.create .paged ⟨64⟩ 0 = .ok .small ∧
      ∃ stored site, (Site.start .small).Reaches site ∧ .program stored program ∈ site.built ∧
        (∃ recording ∈ site.recordings, recording.program = program) ∧ site.Lasts := by
  intro program
  have works : ((program.store .small).1.toOption.bind fun _ =>
      (Interpreter.create (program.store .small).2 OutputStream.unbounded .collecting .standard
        program).toOption.bind fun interpreter => interpreter.run.1.toOption.bind fun _ => some ()).isSome := by
    decide +kernel
  clear_value program
  obtain ⟨stored, done, works⟩ := exists_ok_of_bind works
  obtain ⟨interpreter, created, works⟩ := exists_ok_of_bind works
  obtain ⟨result, ended, _⟩ := exists_ok_of_bind works
  have laid : program.store (Site.start .small).memory = (.ok stored, (program.store .small).2) := Prod.ext done rfl
  obtain ⟨_, site, rfl, reaches, same, _, listed⟩ :=
    Program.store_composed program [] (Site.start .small) _ _ (List.nil_subset _) laid
  rw [← same] at created
  have recorded := reaches.tail (.created created)
  have advances : interpreter.Advances result interpreter.run.2 := .run (Prod.ext ended rfl)
  have ran := recorded.tail (.ran List.mem_cons_self rfl rfl advances)
  exact ⟨System.paged_sound, Memory.small_created, _, _, ran, listed List.mem_cons_self,
    ⟨_, List.mem_cons_self, rfl⟩, trees_stay System.paged_sound Memory.small_created ran⟩

end ArenaLang
