import ArenaLang.Proofs.Capacities
import ArenaLang.Proofs.Likeness
import ArenaLang.Proofs.Persistence

namespace ArenaLang

open MemoryM

/-! ## Reading nodes -/

namespace MemoryM

variable {α β : Type} {step : MemoryM α} {next : α → MemoryM β} {memory after : Memory}

theorem Still.bind_done (still : Still step) {b : β} (done : (step >>= next) memory = (.ok b, after)) :
    ∃ a, step memory = (.ok a, memory) ∧ next a memory = (.ok b, after) := by
  obtain ⟨a, middle, stepped, ended⟩ := MemoryM.bind_done done
  have same : middle = memory := by
    have kept := still memory
    rwa [stepped] at kept
  subst same
  exact ⟨a, stepped, ended⟩

theorem pure_done {a b : α} (done : (pure a : MemoryM α) memory = (.ok b, after)) : a = b := by
  cases done
  rfl

theorem found_done {known : Option α} {a : α} (done : found known memory = (.ok a, after)) : known = some a := by
  cases known with
  | none => cases done
  | some b => rw [pure_done done]

theorem loadText_still (slice : Slice) : Still (loadText slice) :=
  (loadAll_still slice).bind fun _ => found_still _

theorem mapM_still {load : α → MemoryM β} (parts : List α) (still : ∀ a, Still (load a)) :
    Still (parts.mapM load) := by
  induction parts with
  | nil => exact .pure []
  | cons a rest ih =>
      rw [List.mapM_cons]
      exact (still a).bind fun _ => ih.bind fun _ => .pure _

theorem mapM_done {load : α → MemoryM β} {parts : List α} {wholes : List β} (still : ∀ a, Still (load a))
    (done : parts.mapM load memory = (.ok wholes, after)) :
    List.Forall₂ (fun a b => load a memory = (.ok b, memory)) parts wholes := by
  induction parts generalizing wholes with
  | nil =>
      cases done
      exact .nil
  | cons a rest ih =>
      rw [List.mapM_cons] at done
      obtain ⟨b, head, done⟩ := (still a).bind_done done
      obtain ⟨others, tail, done⟩ := (mapM_still rest still).bind_done done
      cases done
      exact .cons head (ih tail)

theorem length_of_decodeAll? [Storable α] {count : Nat} {cells : List Cell} {elements : List α}
    (decoded : Storable.decodeAll? count cells = some elements) : elements.length = count := by
  induction count generalizing cells elements with
  | zero =>
      cases decoded
      rfl
  | succ count ih =>
      rw [Storable.decodeAll?] at decoded
      split at decoded
      · rename_i rest _ others
        cases decoded
        rw [List.length_cons, ih others]
      · cases decoded

theorem length_of_loadAll [Storable α] {slice : Slice} {elements : List α}
    (done : loadAll α slice memory = (.ok elements, after)) : elements.length = slice.length := by
  obtain ⟨cells, middle, _, decoded⟩ := MemoryM.bind_done done
  exact length_of_decodeAll? (found_done decoded)

theorem bytes_of_loadText {slice : Slice} {s : String} (done : loadText slice memory = (.ok s, after)) :
    loadAll UInt8 slice memory = (.ok (utf8 s), memory) := by
  obtain ⟨bytes, read, decoded⟩ := (loadAll_still slice).bind_done done
  have valid := found_done decoded
  rw [String.fromUTF8?] at valid
  split at valid
  · cases valid
    rw [read]
    rfl
  · cases valid

end MemoryM

/-! ### Expressions -/

theorem call_still {β : Type} (make : String → List Expr → β) (function row : Slice)
    {load : ExprNode → MemoryM Expr} (still : ∀ node, Still (load node)) :
    Still (do
      let name ← loadText function
      let nodes ← loadAll ExprNode row
      return make name (← nodes.mapM load)) := by
  refine (loadText_still function).bind fun _ => (loadAll_still row).bind fun nodes => ?_
  exact (mapM_still nodes still).bind fun _ => .pure _

structure CallFound (memory : Memory) (load : ExprNode → MemoryM Expr) (function row : Slice) (s : String)
    (arguments : List Expr) : Prop where
  named : loadText function memory = (.ok s, memory)
  each : ∃ nodes, loadAll ExprNode row memory = (.ok nodes, memory) ∧
    List.Forall₂ (fun node e => load node memory = (.ok e, memory)) nodes arguments

theorem call_found {β : Type} {make : String → List Expr → β} {function row : Slice}
    {load : ExprNode → MemoryM Expr} {memory after : Memory} {whole : β} (still : ∀ node, Still (load node))
    (done : (do
      let name ← loadText function
      let nodes ← loadAll ExprNode row
      return make name (← nodes.mapM load)) memory = (.ok whole, after)) :
    ∃ s arguments, whole = make s arguments ∧ CallFound memory load function row s arguments := by
  obtain ⟨s, named, done⟩ := (loadText_still function).bind_done done
  obtain ⟨nodes, listed, done⟩ := (loadAll_still row).bind_done done
  obtain ⟨arguments, loaded, done⟩ := (mapM_still nodes still).bind_done done
  exact ⟨s, arguments, (pure_done done).symm, named, nodes, listed, mapM_done still loaded⟩

theorem ExprNode.load_still (depth : Nat) (node : ExprNode) : Still (node.load depth) := by
  cases node with
  | number n =>
      rw [load]
      exact .pure _
  | text bytes =>
      rw [load]
      exact (loadText_still bytes).bind fun _ => .pure _
  | «variable» name =>
      rw [load]
      exact (loadText_still name).bind fun _ => .pure _
  | call function arguments =>
      cases depth with
      | zero => exact .throw _
      | succ depth =>
          rw [load]
          exact call_still Expr.call function arguments (ExprNode.load_still depth)

inductive ExprNode.Found (memory : Memory) : Nat → ExprNode → Expr → Prop
  | number {depth : Nat} (n : Number) : Found memory depth (.number n) (.number n)
  | text {depth : Nat} {bytes : Slice} {s : String} (read : loadText bytes memory = (.ok s, memory)) :
      Found memory depth (.text bytes) (.text s)
  | name {depth : Nat} {name : Slice} {s : String} (read : loadText name memory = (.ok s, memory)) :
      Found memory depth (.variable name) (.variable s)
  | call {depth : Nat} {function row : Slice} {s : String} {arguments : List Expr}
      (found : CallFound memory (ExprNode.load depth) function row s arguments) :
      Found memory (depth + 1) (.call function row) (.call s arguments)

theorem ExprNode.found_of_load {depth : Nat} {node : ExprNode} {e : Expr} {memory after : Memory}
    (done : node.load depth memory = (.ok e, after)) : node.Found memory depth e := by
  cases node with
  | number n =>
      rw [load] at done
      cases done
      exact .number n
  | text bytes =>
      rw [load] at done
      obtain ⟨s, read, done⟩ := (loadText_still bytes).bind_done done
      cases done
      exact .text read
  | «variable» name =>
      rw [load] at done
      obtain ⟨s, read, done⟩ := (loadText_still name).bind_done done
      cases done
      exact .name read
  | call function arguments =>
      cases depth with
      | zero => cases done
      | succ depth =>
          rw [load] at done
          obtain ⟨s, arguments, rfl, found⟩ := call_found (ExprNode.load_still depth) done
          exact .call found

/-! ### Statements -/

theorem load_still {α : Type} [Storable α] (place : Place) : Still (MemoryM.load α place) :=
  (read_still place _).bind fun _ => found_still _

theorem StmtNode.load_still (depth : Nat) (node : StmtNode) : Still (node.load depth) := by
  cases node with
  | declare place =>
      cases depth with
      | zero => exact .throw _
      | succ depth =>
          rw [load]
          refine (ArenaLang.load_still place).bind fun node => (loadText_still node.name).bind fun _ => ?_
          refine (loadAll_still node.params).bind fun slices => (mapM_still slices loadText_still).bind fun _ => ?_
          refine (loadAll_still node.body).bind fun nodes => ?_
          exact (mapM_still nodes (StmtNode.load_still depth)).bind fun _ => .pure _
  | ret result =>
      cases result with
      | none =>
          rw [load]
          exact .pure _
      | some node =>
          rw [load]
          exact (node.load_still depth).bind fun _ => .pure _
  | call function arguments =>
      rw [load]
      exact call_still Stmt.call function arguments (ExprNode.load_still depth)

structure DeclarationFound (memory : Memory) (load : StmtNode → MemoryM Stmt) (node : DeclarationNode)
    (name : String) (params : List String) (body : List Stmt) : Prop where
  named : loadText node.name memory = (.ok name, memory)
  params : ∃ slices, loadAll Slice node.params memory = (.ok slices, memory) ∧
    List.Forall₂ (fun slice s => loadText slice memory = (.ok s, memory)) slices params
  body : ∃ nodes, loadAll StmtNode node.body memory = (.ok nodes, memory) ∧
    List.Forall₂ (fun node s => load node memory = (.ok s, memory)) nodes body

inductive StmtNode.Found (memory : Memory) : Nat → StmtNode → Stmt → Prop
  | declare {depth : Nat} {place : Place} {node : DeclarationNode} {name : String} {params : List String}
      {body : List Stmt} (read : MemoryM.load DeclarationNode place memory = (.ok node, memory))
      (found : DeclarationFound memory (StmtNode.load depth) node name params body) :
      Found memory (depth + 1) (.declare place) (.declare name params body)
  | nothing {depth : Nat} : Found memory depth (.ret none) (.ret none)
  | ret {depth : Nat} {node : ExprNode} {e : Expr} (read : node.load depth memory = (.ok e, memory)) :
      Found memory depth (.ret (some node)) (.ret (some e))
  | call {depth : Nat} {function row : Slice} {s : String} {arguments : List Expr}
      (found : CallFound memory (ExprNode.load depth) function row s arguments) :
      Found memory depth (.call function row) (.call s arguments)

theorem StmtNode.found_of_load {depth : Nat} {node : StmtNode} {statement : Stmt} {memory after : Memory}
    (done : node.load depth memory = (.ok statement, after)) : node.Found memory depth statement := by
  cases node with
  | declare place =>
      cases depth with
      | zero => cases done
      | succ depth =>
          rw [load] at done
          obtain ⟨node, read, done⟩ := (ArenaLang.load_still place).bind_done done
          obtain ⟨name, named, done⟩ := (loadText_still node.name).bind_done done
          obtain ⟨slices, listed, done⟩ := (loadAll_still node.params).bind_done done
          obtain ⟨params, texts, done⟩ := (mapM_still slices loadText_still).bind_done done
          obtain ⟨nodes, row, done⟩ := (loadAll_still node.body).bind_done done
          have still := StmtNode.load_still depth
          obtain ⟨body, loaded, done⟩ := (mapM_still nodes still).bind_done done
          cases done
          exact .declare read ⟨named, ⟨slices, listed, mapM_done loadText_still texts⟩,
            ⟨nodes, row, mapM_done still loaded⟩⟩
  | ret result =>
      cases result with
      | none =>
          rw [load] at done
          cases done
          exact .nothing
      | some node =>
          rw [load] at done
          obtain ⟨e, read, done⟩ := (node.load_still depth).bind_done done
          cases done
          exact .ret read
  | call function arguments =>
      rw [load] at done
      obtain ⟨s, arguments, rfl, found⟩ := call_found (ExprNode.load_still depth) done
      exact .call found

/-! ## Comparing nodes -/

namespace PairM

variable {α β : Type} {memory other : Memory}

theorem bind_of_ok {step : PairM α} {memories : Memory × Memory} {a : α} (done : step memories = .ok a)
    (next : α → PairM β) : (step >>= next) memories = next a memories := by
  simp only [bind, ReaderT.bind, Except.bind, done]

theorem left_ok {step : MemoryM α} {a : α} (done : step memory = (.ok a, memory)) :
    left step (memory, other) = .ok a := by
  rw [left, done]

theorem right_ok {step : MemoryM α} {a : α} (done : step other = (.ok a, other)) :
    right step (memory, other) = .ok a := by
  rw [right, done]

theorem both_ok {first second : PairM Bool} {memories : Memory × Memory} {x y : Bool}
    (one : first memories = .ok x) (two : second memories = .ok y) :
    both first second memories = .ok (x && y) := by
  rw [both, bind_of_ok one]
  cases x with
  | false => rfl
  | true => exact two

theorem sameRows_ok [Storable α] {same : α → α → PairM Bool} {row second : Slice} {parts others : List α}
    {wholes behind : List β} {equal : β → β → Bool} {stands stood : α → β → Prop}
    (first : loadAll α row memory = (.ok parts, memory)) (next : loadAll α second other = (.ok others, other))
    (here : List.Forall₂ stands parts wholes) (there : List.Forall₂ stood others behind)
    (one : ∀ a x b y, stands a x → stood b y → same a b (memory, other) = .ok (equal x y)) :
    sameRows same row second (memory, other) = .ok (wholes.isEqv behind equal) := by
  rw [sameRows, ← length_of_loadAll first, ← length_of_loadAll next]
  split
  · rw [bind_of_ok (left_ok first), bind_of_ok (right_ok next)]
    clear first next
    rename_i length
    induction here generalizing others behind with
    | nil =>
        cases there with
        | nil => rfl
        | cons _ _ => cases length
    | cons head _ ih =>
        cases there with
        | nil => cases length
        | cons image rest => exact both_ok (one _ _ _ _ head image) (ih rest (Nat.succ.inj length))
  · rename_i different
    rw [here.length_eq, there.length_eq] at different
    rw [List.isEqv_eq_decide, dif_neg different]
    rfl

theorem isEqv_beq [BEq β] [LawfulBEq β] (front back : List β) : front.isEqv back (· == ·) = (front == back) := by
  rw [Bool.eq_iff_iff, List.isEqv_eq, beq_iff_eq]

theorem utf8_inj {s t : String} : utf8 s = utf8 t ↔ s = t := by
  constructor
  · intro same
    have read := fromUTF8?_utf8 s
    rw [same, fromUTF8?_utf8 t] at read
    exact (Option.some.inj read).symm
  · rintro rfl
    rfl

theorem sameTexts_ok {slice second : Slice} {s t : String} (first : loadText slice memory = (.ok s, memory))
    (next : loadText second other = (.ok t, other)) :
    sameTexts slice second (memory, other) = .ok (s == t) := by
  have equal (bytes : List UInt8) : List.Forall₂ Eq bytes bytes := List.forall₂_same.mpr fun _ _ => rfl
  have compared : sameTexts slice second (memory, other) = .ok ((utf8 s).isEqv (utf8 t) (· == ·)) := by
    apply sameRows_ok (bytes_of_loadText first) (bytes_of_loadText next) (equal _) (equal _)
    rintro x _ y _ rfl rfl
    rfl
  rw [compared, isEqv_beq, Bool.beq_eq_decide_eq, decide_eq_decide.mpr utf8_inj, Bool.beq_eq_decide_eq]

end PairM

theorem Expr.sameAll_eq (expressions others : List Expr) :
    Expr.sameAll expressions others = expressions.isEqv others Expr.same := by
  induction expressions generalizing others with
  | nil => cases others <;> rfl
  | cons e rest ih =>
      cases others with
      | nil => rfl
      | cons f more => rw [sameAll, List.isEqv, ih]

theorem Stmt.sameAll_eq (statements others : List Stmt) :
    Stmt.sameAll statements others = statements.isEqv others Stmt.same := by
  induction statements generalizing others with
  | nil => cases others <;> rfl
  | cons s rest ih =>
      cases others with
      | nil => rfl
      | cons t more => rw [sameAll, List.isEqv, ih]

section

open PairM

variable {memory other : Memory}

theorem CallFound.same {load reader : ExprNode → MemoryM Expr} {same : ExprNode → ExprNode → PairM Bool}
    {function row name list : Slice} {s t : String} {arguments others : List Expr}
    (first : CallFound memory load function row s arguments) (second : CallFound other reader name list t others)
    (one : ∀ node e image f, load node memory = (.ok e, memory) → reader image other = (.ok f, other) →
      same node image (memory, other) = .ok (e.same f)) :
    both (sameTexts function name) (sameRows same row list) (memory, other) =
      .ok (s == t && Expr.sameAll arguments others) := by
  obtain ⟨nodes, listed, each⟩ := first.each
  obtain ⟨images, found, behind⟩ := second.each
  rw [Expr.sameAll_eq]
  exact both_ok (sameTexts_ok first.named second.named) (sameRows_ok listed found each behind one)

/-- Nodes compare as the expressions do that they read back as. -/
theorem ExprNode.same_ok {depth reach : Nat} {node image : ExprNode} {e f : Expr}
    (first : node.load depth memory = (.ok e, memory)) (second : image.load reach other = (.ok f, other)) :
    node.same depth image (memory, other) = .ok (e.same f) := by
  cases ExprNode.found_of_load first with
  | number n =>
      cases ExprNode.found_of_load second with
      | number m =>
          rw [same, Expr.same]
          rfl
      | _ =>
          simp only [same, Expr.same]
          rfl
  | text read =>
      cases ExprNode.found_of_load second with
      | text again =>
          rw [same, Expr.same]
          exact sameTexts_ok read again
      | _ =>
          simp only [same, Expr.same]
          rfl
  | name read =>
      cases ExprNode.found_of_load second with
      | name again =>
          rw [same, Expr.same]
          exact sameTexts_ok read again
      | _ =>
          simp only [same, Expr.same]
          rfl
  | call found =>
      cases ExprNode.found_of_load second with
      | call again =>
          rw [same, Expr.same]
          exact found.same again fun node e image f => ExprNode.same_ok
      | _ =>
          simp only [same, Expr.same]
          rfl

theorem StmtNode.same_ok {depth reach : Nat} {node image : StmtNode} {s t : Stmt}
    (first : node.load depth memory = (.ok s, memory)) (second : image.load reach other = (.ok t, other)) :
    node.same depth image (memory, other) = .ok (s.same t) := by
  cases StmtNode.found_of_load first with
  | declare read found =>
      cases StmtNode.found_of_load second with
      | declare again image =>
          -- Names first, then parameters, then bodies; a difference ends the comparison before later parts are read.
          obtain ⟨slices, listed, each⟩ := found.params
          obtain ⟨others, kept, texts⟩ := image.params
          obtain ⟨nodes, row, body⟩ := found.body
          obtain ⟨images, second, behind⟩ := image.body
          rw [same, bind_of_ok (left_ok read), bind_of_ok (right_ok again), Stmt.same, Bool.and_assoc,
            Stmt.sameAll_eq, ← isEqv_beq]
          apply both_ok (sameTexts_ok found.named image.named)
          apply both_ok (sameRows_ok listed kept each texts fun _ _ _ _ => sameTexts_ok)
          exact sameRows_ok row second body behind fun _ _ _ _ => StmtNode.same_ok
      | _ =>
          simp only [same, Stmt.same]
          rfl
  | nothing =>
      cases StmtNode.found_of_load second with
      | nothing =>
          rw [same, Stmt.same]
          rfl
      | _ =>
          simp only [same, Stmt.same]
          rfl
  | ret read =>
      cases StmtNode.found_of_load second with
      | ret again =>
          rw [same, Stmt.same]
          exact ExprNode.same_ok read again
      | _ =>
          simp only [same, Stmt.same]
          rfl
  | call found =>
      cases StmtNode.found_of_load second with
      | call again =>
          rw [same, Stmt.same]
          exact found.same again fun node e image f => ExprNode.same_ok
      | _ =>
          simp only [same, Stmt.same]
          rfl

theorem StoredProgram.sameAcross_ok {stored image : StoredProgram} {p q : Program}
    (first : stored.load memory = (.ok p, memory)) (second : image.load other = (.ok q, other)) :
    stored.sameAcross image (memory, other) = .ok (p.same q) := by
  obtain ⟨nodes, listed, loaded⟩ := (loadAll_still stored.statements).bind_done first
  obtain ⟨images, found, read⟩ := (loadAll_still image.statements).bind_done second
  have here := mapM_done (StmtNode.load_still stored.depth) loaded
  have there := mapM_done (StmtNode.load_still image.depth) read
  rw [sameAcross, Program.same, Stmt.sameAll_eq]
  exact sameRows_ok listed found here there fun _ _ _ _ => StmtNode.same_ok

end

/-! ## Programs in arenas -/

def Site.Reachable (site : Site) : Prop :=
  ∃ (system : System) (options : Options) (request : Nat) (start : Memory), system.Sound ∧
    Memory.create system options request = .ok start ∧ (Site.start start).Reaches site

/-- Whether builders put a program into the arena that a memory is of, at whatever time before. -/
def StoredProgram.LiesIn (stored : StoredProgram) (memory : Memory) (program : Program) : Prop :=
  ∃ site : Site, site.Reachable ∧ site.memory = memory ∧ .program stored program ∈ site.built

theorem StoredProgram.LiesIn.loads {stored : StoredProgram} {memory : Memory} {program : Program}
    (lies : stored.LiesIn memory program) : stored.load memory = (.ok program, memory) := by
  obtain ⟨site, ⟨system, options, request, start, sound, created, reaches⟩, rfl, built⟩ := lies
  obtain ⟨_, _, keeps⟩ := reaches.keeps (Site.start_keeps (Memory.create_holds sound created))
  exact keeps.reads built .refl

theorem Program.store_lies {site : Site} {program : Program} {stored : StoredProgram} {after : Memory}
    (reachable : site.Reachable) (done : program.store site.memory = (.ok stored, after)) :
    stored.LiesIn after program ∧
      ∀ other earlier, .program other earlier ∈ site.built → other.LiesIn after earlier := by
  obtain ⟨system, options, request, start, sound, created, reaches⟩ := reachable
  obtain ⟨_, next, rfl, reached, rfl, kept, listed⟩ :=
    Program.store_composed program [] site stored after (List.nil_subset _) done
  have reachable : next.Reachable := ⟨system, options, request, start, sound, created, reaches.trans reached⟩
  exact ⟨⟨next, reachable, rfl, listed List.mem_cons_self⟩,
    fun other earlier built => ⟨next, reachable, rfl, kept built⟩⟩

/-- Programs in arenas compare as their trees do, wherever they lie and in which arenas: they are
equal if the trees are the same but for their numbers and these are equal in pairs. This is
symmetric and transitive, and a program equals itself if none of its numbers is a NaN. -/
theorem stored_programs_compare_by_structure {m n k : Memory} {a b c : StoredProgram} {p q r : Program}
    (first : a.LiesIn m p) (second : b.LiesIn n q) (third : c.LiesIn k r) :
    (∃ equal, a.sameAcross b (m, n) = .ok equal ∧ (equal = true ↔ p.Alike q)) ∧
      b.sameAcross a (n, m) = a.sameAcross b (m, n) ∧
      (a.sameAcross b (m, n) = .ok true → b.sameAcross c (n, k) = .ok true → a.sameAcross c (m, k) = .ok true) ∧
      (a.sameAcross a (m, m) = .ok true ↔ ∀ number ∈ p.numbers, number.isNaN = false) ∧
      ∀ (program : Program) (stored : StoredProgram) (after : Memory), program.store m = (.ok stored, after) →
        stored.LiesIn after program ∧ a.LiesIn after p := by
  have ok {x y : Bool} : (.ok x : Except Failure Bool) = .ok y ↔ x = y := by simp
  rw [StoredProgram.sameAcross_ok first.loads second.loads, StoredProgram.sameAcross_ok second.loads first.loads,
    StoredProgram.sameAcross_ok second.loads third.loads, StoredProgram.sameAcross_ok first.loads third.loads,
    StoredProgram.sameAcross_ok first.loads first.loads]
  simp only [ok, Program.same_iff]
  refine ⟨⟨_, rfl, Program.same_iff⟩, ?_, Program.Alike.trans, Program.alike_self_iff, ?_⟩
  · rw [Bool.eq_iff_iff, Program.same_iff, Program.same_iff]
    exact ⟨Program.Alike.symm, Program.Alike.symm⟩
  · intro program stored after done
    obtain ⟨site, reachable, rfl, built⟩ := first
    obtain ⟨lies, others⟩ := Program.store_lies reachable done
    exact ⟨lies, others a p built⟩

/-- A function that returns a NaN, deep in an argument, put twice into one arena. -/
theorem stored_programs_compare_by_structure_nan :
    let nan : Number := ⟨0x7FF8000000000000⟩
    let program : Program := [.declare "f" ["a"] [.ret (some (.call "g" [.call "h" [.number nan]]))]]
    ∃ a b middle after, program.store .small = (.ok a, middle) ∧ program.store middle = (.ok b, after) ∧
      a.LiesIn after program ∧ b.LiesIn after program ∧ a.sameAcross a (after, after) = .ok false ∧
      a.sameAcross b (after, after) = .ok false := by
  intro nan program
  have works : ((program.store .small).1.toOption.bind fun _ =>
      (program.store (program.store .small).2).1.toOption.bind fun _ => some ()).isSome := by decide +kernel
  have differs : ¬program.Alike program := by
    rw [Program.alike_self_iff]
    decide
  clear_value program
  obtain ⟨a, done, works⟩ := exists_ok_of_bind works
  obtain ⟨b, again, _⟩ := exists_ok_of_bind works
  have small : (Site.start .small).Reachable :=
    ⟨.paged, ⟨64⟩, 0, .small, System.paged_sound, Memory.small_created, .refl⟩
  have lies := (Program.store_lies small (Prod.ext done rfl)).1
  obtain ⟨other, still⟩ :=
    (stored_programs_compare_by_structure lies lies lies).2.2.2.2 program b _ (Prod.ext again rfl)
  obtain ⟨⟨equal, compared, alike⟩, _⟩ := stored_programs_compare_by_structure still still still
  obtain ⟨⟨equals, twice, as⟩, _⟩ := stored_programs_compare_by_structure still other other
  rw [Bool.eq_false_iff.mpr fun held => differs (alike.mp held)] at compared
  rw [Bool.eq_false_iff.mpr fun held => differs (as.mp held)] at twice
  exact ⟨a, b, _, _, Prod.ext done rfl, Prod.ext again rfl, still, other, compared, twice⟩

end ArenaLang
