import ArenaLang.Proofs.StoredPrograms

namespace ArenaLang

open MemoryM

namespace Builder

def text (s : String) : MemoryM ExprNode := return .text (← storeText s)

def ident (s : String) : MemoryM ExprNode := return .variable (← storeText s)

def call {β : Type} (make : Slice → Slice → β) (function : String) (arguments : List ExprNode) : MemoryM β := do
  let name ← storeText function
  return make name (← MemoryM.storeAll arguments)

def declaration (name : String) (params : List String) (body : List StmtNode) : MemoryM StmtNode := do
  let names ← storeNames params (← Buffer.withCapacity params.length)
  let bytes ← storeText name
  let row ← MemoryM.storeAll body
  let node : DeclarationNode := ⟨bytes, names.toSlice, row⟩
  return .declare (← MemoryM.store node)

def program (statements : List StmtNode) (depth : Nat) : MemoryM StoredProgram :=
  return ⟨← MemoryM.storeAll statements, depth⟩

end Builder

/-! ## Single calls -/

inductive Built where
  | expression (node : ExprNode) (tree : Expr)
  | statement (node : StmtNode) (tree : Stmt)
  | program (stored : StoredProgram) (tree : Program)

/-- Whether what was built reads back as its tree, however deep a reader is ready to go. -/
def Built.Reads (memory : Memory) : Built → Prop
  | .expression node tree => ∀ depth, tree.depth ≤ depth → node.load depth memory = (.ok tree, memory)
  | .statement node tree => ∀ depth, tree.depth ≤ depth → node.load depth memory = (.ok tree, memory)
  | .program stored tree => stored.load memory = (.ok tree, memory)

/-- A call of a builder, with the nodes it is given and the trees they stand for. -/
inductive Construction where
  | number (n : Number)
  | text (s : String)
  | ident (s : String)
  | call (function : String) (arguments : List (ExprNode × Expr))
  | ret (result : Option (ExprNode × Expr))
  | callStatement (function : String) (arguments : List (ExprNode × Expr))
  | declaration (name : String) (params : List String) (body : List (StmtNode × Stmt))
  | program (statements : List (StmtNode × Stmt))

namespace Construction

def parts : Construction → List Built
  | .number _ | .text _ | .ident _ => []
  | .call _ arguments | .callStatement _ arguments => arguments.map (Function.uncurry .expression)
  | .ret result => (result.map (Function.uncurry .expression)).toList
  | .declaration _ _ body => body.map (Function.uncurry .statement)
  | .program statements => statements.map (Function.uncurry .statement)

def run : Construction → MemoryM Built
  | .number n => pure (.expression (.number n) (.number n))
  | .text s => return .expression (← Builder.text s) (.text s)
  | .ident s => return .expression (← Builder.ident s) (.variable s)
  | .call function arguments =>
      return .expression (← Builder.call .call function (arguments.map Prod.fst))
        (.call function (arguments.map Prod.snd))
  | .ret result => pure (.statement (.ret (result.map Prod.fst)) (.ret (result.map Prod.snd)))
  | .callStatement function arguments =>
      return .statement (← Builder.call .call function (arguments.map Prod.fst))
        (.call function (arguments.map Prod.snd))
  | .declaration name params body =>
      return .statement (← Builder.declaration name params (body.map Prod.fst))
        (.declare name params (body.map Prod.snd))
  | .program statements =>
      return .program (← Builder.program (statements.map Prod.fst) (Stmt.depthAll (statements.map Prod.snd)))
        (statements.map Prod.snd)

end Construction

/-! ## What stands -/

def Built.Stands (ledger : Ledger) : Built → Prop
  | .expression node tree => ∀ depth, tree.depth ≤ depth → Loads ledger (node.load depth) tree
  | .statement node tree => ∀ depth, tree.depth ≤ depth → Loads ledger (node.load depth) tree
  | .program stored tree => Loads ledger stored.load tree

namespace Built.Stands

variable {ledger : Ledger} {built : Built} {memory : Memory}

theorem mono {more : Ledger} (stands : built.Stands ledger) (sublist : ledger.Sublist more) : built.Stands more := by
  cases built with
  | expression node tree => exact fun depth enough => (stands depth enough).mono sublist
  | statement node tree => exact fun depth enough => (stands depth enough).mono sublist
  | program stored tree => exact Loads.mono stands sublist

theorem reads (stands : built.Stands ledger) (holds : memory.Holds ledger) : built.Reads memory := by
  cases built with
  | expression node tree => exact fun depth enough => stands depth enough memory holds
  | statement node tree => exact fun depth enough => stands depth enough memory holds
  | program stored tree => exact stands memory holds

end Built.Stands

theorem mapM_loads {α β : Type} {load : α → MemoryM β} {ledger : Ledger} (pairs : List (α × β))
    (one : ∀ pair ∈ pairs, Loads ledger (load pair.1) pair.2) :
    Loads ledger ((pairs.map Prod.fst).mapM load) (pairs.map Prod.snd) := by
  induction pairs with
  | nil => exact .pure
  | cons pair rest ih =>
      rw [List.map_cons, List.mapM_cons]
      apply (one pair List.mem_cons_self).bind
      exact (ih fun other member => one other (List.mem_cons_of_mem _ member)).bind .pure

theorem arguments_load {ledger : Ledger} {arguments : List (ExprNode × Expr)} {depth : Nat}
    (standing : ∀ part ∈ arguments.map (Function.uncurry Built.expression), part.Stands ledger)
    (enough : Expr.depthAll (arguments.map Prod.snd) ≤ depth) :
    Loads ledger ((arguments.map Prod.fst).mapM (ExprNode.load depth)) (arguments.map Prod.snd) := by
  apply mapM_loads
  intro pair member
  have listed : pair.2 ∈ arguments.map Prod.snd := List.mem_map_of_mem member
  exact standing _ (List.mem_map_of_mem member) depth (Nat.le_trans (Expr.depth_le_depthAll listed) enough)

theorem statements_load {ledger : Ledger} {statements : List (StmtNode × Stmt)} {depth : Nat}
    (standing : ∀ part ∈ statements.map (Function.uncurry Built.statement), part.Stands ledger)
    (enough : Stmt.depthAll (statements.map Prod.snd) ≤ depth) :
    Loads ledger ((statements.map Prod.fst).mapM (StmtNode.load depth)) (statements.map Prod.snd) := by
  apply mapM_loads
  intro pair member
  have listed : pair.2 ∈ statements.map Prod.snd := List.mem_map_of_mem member
  exact standing _ (List.mem_map_of_mem member) depth (Nat.le_trans (Stmt.depth_le_depthAll listed) enough)

theorem Declared.sublist {name : String} {params : List String} {nodes : List StmtNode} {place : Place}
    {parts ledger : Ledger} (declared : Declared name params nodes parts place ledger) : parts.Sublist ledger := by
  cases declared with
  | declared _ _ _ _ _ =>
      iterate 4 apply List.sublist_append_of_sublist_right
      exact .refl parts

theorem Builder.program_triple (statements : List StmtNode) (depth : Nat) (parts : Ledger) :
    Triple parts (Builder.program statements depth) fun stored ledger =>
      ∃ row list, stored = ⟨row, depth⟩ ∧ Row statements row list ∧ ledger = list ++ parts := by
  apply Triple.bind ((storeAll_triple statements).frame parts)
  rintro row _ ⟨list, listed, rfl⟩
  exact .pure ⟨row, list, rfl, listed, rfl⟩

/-- A call of a builder leaves all that stood, and what it builds stands with it. -/
theorem Construction.run_triple {construction : Construction} {ledger : Ledger}
    (standing : ∀ part ∈ construction.parts, part.Stands ledger) :
    Triple ledger construction.run fun built after => built.Stands after ∧ ledger.Sublist after := by
  cases construction with
  | number n =>
      refine .pure ⟨fun depth _ => ?_, .refl ledger⟩
      rw [ExprNode.load]
      exact .pure
  | text s =>
      apply Triple.bind ((Expr.store_triple (.text s)).frame ledger)
      rintro node _ ⟨given, stands, rfl⟩
      exact .pure ⟨fun depth enough => (stands.loads enough).left, List.sublist_append_right _ _⟩
  | ident s =>
      apply Triple.bind ((Expr.store_triple (.variable s)).frame ledger)
      rintro node _ ⟨given, stands, rfl⟩
      exact .pure ⟨fun depth enough => (stands.loads enough).left, List.sublist_append_right _ _⟩
  | call function arguments =>
      apply Triple.bind (name_and_row_triple ExprNode.call function (arguments.map Prod.fst) ledger)
      rintro _ _ ⟨name, row, text, list, rfl, named, listed, rfl⟩
      refine .pure ⟨fun depth enough => ?_, ?_⟩
      · cases depth with
        | zero => cases enough
        | succ depth =>
            rw [ExprNode.load]
            exact call_loads Expr.call named listed (arguments_load standing (Nat.le_of_succ_le_succ enough))
      · exact (List.sublist_append_right text ledger).trans (List.sublist_append_right list _)
  | ret result =>
      cases result with
      | none =>
          refine .pure ⟨fun depth _ => ?_, .refl ledger⟩
          rw [Option.map_none, StmtNode.load]
          exact .pure
      | some pair =>
          refine .pure ⟨fun depth enough => ?_, .refl ledger⟩
          rw [Option.map_some, StmtNode.load]
          exact (standing _ List.mem_cons_self depth enough).bind .pure
  | callStatement function arguments =>
      apply Triple.bind (name_and_row_triple StmtNode.call function (arguments.map Prod.fst) ledger)
      rintro _ _ ⟨name, row, text, list, rfl, named, listed, rfl⟩
      refine .pure ⟨fun depth enough => ?_, ?_⟩
      · rw [StmtNode.load]
        exact call_loads Stmt.call named listed (arguments_load standing enough)
      · exact (List.sublist_append_right text ledger).trans (List.sublist_append_right list _)
  | declaration name params body =>
      apply Triple.bind (declaration_triple name params (body.map Prod.fst) ledger)
      rintro _ _ ⟨place, rfl, declared⟩
      refine .pure ⟨fun depth enough => ?_, declared.sublist⟩
      cases depth with
      | zero => cases enough
      | succ depth => exact declared.loads (statements_load standing (Nat.le_of_succ_le_succ enough))
  | program statements =>
      apply Triple.bind (Builder.program_triple (statements.map Prod.fst) _ ledger)
      rintro _ _ ⟨row, list, rfl, listed, rfl⟩
      refine .pure ⟨?_, List.sublist_append_right list ledger⟩
      exact listed.loads.left.bind (statements_load standing (Nat.le_refl _)).right

end ArenaLang
