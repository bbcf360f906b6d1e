import ArenaLang.Program.Stored
import ArenaLang.Proofs.Buffers

namespace ArenaLang

namespace MemoryM

variable {α : Type}

theorem found_loads {ledger : Ledger} {a : α} (known : Option α) (same : known = some a) :
    Loads ledger (found known) a := by
  rw [same]
  exact .pure

theorem load_loads [Storable α] (place : Place) (a : α) :
    Loads [⟨⟨place, Storable.layoutOf α⟩, Storable.encode a⟩] (load α place) a := by
  intro memory holds
  have reading : read place (Storable.widthOf α) memory = (.ok (Storable.encode a), memory) :=
    Memory.Holds.read_all holds
  rw [load, bind_ok reading, Storable.decode?_encode]
  rfl

theorem fromUTF8?_utf8 (s : String) : String.fromUTF8? ⟨(utf8 s).toArray⟩ = some s := by
  have same : (⟨(utf8 s).toArray⟩ : ByteArray) = s.toByteArray := rfl
  rw [same, String.fromUTF8?, dif_pos s.isValidUTF8]
  rfl

theorem loadText_loads {s : String} {slice : Slice} {ledger : Ledger} (row : Row (utf8 s) slice ledger) :
    Loads ledger (loadText slice) s :=
  row.loads.bind (found_loads _ (fromUTF8?_utf8 s))

end MemoryM

open MemoryM

inductive Each {α β : Type} (stands : α → β → Ledger → Prop) : List α → List β → Ledger → Prop
  | nil : Each stands [] [] []
  | cons {a : α} {b : β} {parts : List α} {wholes : List β} {head tail : Ledger} (first : stands a b head)
      (rest : Each stands parts wholes tail) : Each stands (a :: parts) (b :: wholes) (tail ++ head)

theorem Each.mapM_loads {α β : Type} {stands : α → β → Ledger → Prop} {parts : List α} {wholes : List β}
    {ledger : Ledger} {load : α → MemoryM β} (each : Each stands parts wholes ledger)
    (one : ∀ a b part, b ∈ wholes → stands a b part → Loads part (load a) b) :
    Loads ledger (parts.mapM load) wholes := by
  induction each with
  | nil => exact .pure
  | @cons a b parts wholes head tail first rest ih =>
      rw [List.mapM_cons]
      apply (one a b head List.mem_cons_self first).right.bind
      have others := ih fun a b part member => one a b part (List.mem_cons_of_mem _ member)
      exact others.left.bind .pure

theorem Each.cons_triple {α β : Type} {stands : α → β → Ledger → Prop} {b : β} {wholes : List β} {first : MemoryM α}
    {others : MemoryM (List α)} (one : Triple [] first fun a ledger => stands a b ledger)
    (rest : Triple [] others fun parts ledger => Each stands parts wholes ledger) :
    Triple []
      (do
        let a ← first
        return a :: (← others))
      fun parts ledger => Each stands parts (b :: wholes) ledger := by
  apply Triple.bind one
  intro a head stood
  apply Triple.bind (rest.frame head)
  rintro parts _ ⟨tail, each, rfl⟩
  exact .pure (.cons stood each)

theorem le_greatest {α : Type} {measure : α → Nat} {greatest : List α → Nat} {a : α} {members : List α}
    (cons : ∀ first rest, greatest (first :: rest) = max (measure first) (greatest rest)) (member : a ∈ members) :
    measure a ≤ greatest members := by
  induction members with
  | nil => cases member
  | cons first rest ih =>
      rw [cons]
      cases List.mem_cons.mp member with
      | inl same =>
          subst same
          exact Nat.le_max_left _ _
      | inr behind => exact Nat.le_trans (ih behind) (Nat.le_max_right _ _)

/-! ## Expressions -/

abbrev Texts : List Slice → List String → Ledger → Prop := Each fun slice s => Row (utf8 s) slice

inductive ExprNode.Stands : ExprNode → Expr → Ledger → Prop
  | number {n : Number} : Stands (.number n) (.number n) []
  | text {s : String} {bytes : Slice} {ledger : Ledger} (row : Row (utf8 s) bytes ledger) :
      Stands (.text bytes) (.text s) ledger
  | name {s : String} {name : Slice} {ledger : Ledger} (row : Row (utf8 s) name ledger) :
      Stands (.variable name) (.variable s) ledger
  | call {s : String} {function row : Slice} {nodes : List ExprNode} {arguments : List Expr}
      {parts name list : Ledger} (each : Each Stands nodes arguments parts)
      (text : Row (utf8 s) function name) (nodesRow : Row nodes row list) :
      Stands (.call function row) (.call s arguments) (list ++ (name ++ parts))

theorem storeText_triple (s : String) : Triple [] (storeText s) (Row (utf8 s)) := storeAll_triple (utf8 s)

theorem name_and_row_triple {α β : Type} [Storable α] (make : Slice → Slice → β) (s : String) (nodes : List α)
    (parts : Ledger) :
    Triple parts
      (do
        let name ← storeText s
        return make name (← MemoryM.storeAll nodes))
      fun made ledger => ∃ name row text list, made = make name row ∧ Row (utf8 s) name text ∧
        Row nodes row list ∧ ledger = list ++ (text ++ parts) := by
  apply Triple.bind ((storeText_triple s).frame parts)
  rintro name _ ⟨text, named, rfl⟩
  apply Triple.bind ((storeAll_triple nodes).frame (text ++ parts))
  rintro row _ ⟨list, listed, rfl⟩
  exact .pure ⟨name, row, text, list, rfl, named, listed, rfl⟩

mutual

theorem Expr.store_triple (e : Expr) : Triple [] e.store fun node ledger => node.Stands e ledger := by
  cases e with
  | number n => exact .pure .number
  | text s =>
      unfold Expr.store
      apply Triple.bind (storeText_triple s)
      intro bytes ledger row
      exact .pure (.text row)
  | «variable» s =>
      unfold Expr.store
      apply Triple.bind (storeText_triple s)
      intro name ledger row
      exact .pure (.name row)
  | call function arguments =>
      unfold Expr.store
      apply Triple.bind (Expr.storeAll_triple arguments)
      intro nodes parts each
      apply (name_and_row_triple ExprNode.call function nodes parts).mono
      rintro _ _ ⟨name, row, text, list, rfl, named, listed, rfl⟩
      exact .call each named listed

theorem Expr.storeAll_triple (expressions : List Expr) :
    Triple [] (Expr.storeAll expressions) fun nodes ledger => Each ExprNode.Stands nodes expressions ledger := by
  cases expressions with
  | nil => exact .pure .nil
  | cons e rest =>
      unfold Expr.storeAll
      exact Each.cons_triple (Expr.store_triple e) (Expr.storeAll_triple rest)

end

theorem Expr.depth_le_depthAll {e : Expr} {expressions : List Expr} (member : e ∈ expressions) :
    e.depth ≤ Expr.depthAll expressions :=
  le_greatest (fun _ _ => rfl) member

theorem call_loads {β : Type} (make : String → List Expr → β) {load : ExprNode → MemoryM Expr} {s : String}
    {function row : Slice} {nodes : List ExprNode} {arguments : List Expr} {parts text list : Ledger}
    (named : Row (utf8 s) function text) (listed : Row nodes row list)
    (all : Loads parts (nodes.mapM load) arguments) :
    Loads (list ++ (text ++ parts))
      (do
        let name ← loadText function
        let nodes ← loadAll ExprNode row
        return make name (← nodes.mapM load))
      (make s arguments) := by
  apply (loadText_loads named).left.right.bind
  apply listed.loads.left.bind
  exact all.right.right.bind .pure

theorem ExprNode.Stands.loads {depth : Nat} {node : ExprNode} {e : Expr} {ledger : Ledger}
    (stands : node.Stands e ledger) (bound : e.depth ≤ depth) : Loads ledger (node.load depth) e := by
  cases stands with
  | number =>
      rw [load]
      exact .pure
  | text row =>
      rw [load]
      exact (loadText_loads row).bind .pure
  | name row =>
      rw [load]
      exact (loadText_loads row).bind .pure
  | call each named listed =>
      rw [Expr.depth] at bound
      cases depth with
      | zero => cases bound
      | succ depth =>
          apply call_loads Expr.call named listed
          apply each.mapM_loads
          intro node e part member stands
          exact stands.loads (Nat.le_trans (Expr.depth_le_depthAll member) (Nat.le_of_succ_le_succ bound))

/-! ## Statements -/

inductive StmtNode.Stands : StmtNode → Stmt → Ledger → Prop
  | declare {place : Place} {node : DeclarationNode} {name : String} {params : List String} {body : List Stmt}
      {slices : List Slice} {names : Buffer Slice} {nodes : List StmtNode}
      {parts grown texts text list : Ledger} (each : Each Stands nodes body parts)
      (placed : names.Stands slices grown) (named : Texts slices params texts)
      (called : Row (utf8 name) node.name text) (listed : Row nodes node.body list)
      (same : node.params = names.toSlice) :
      Stands (.declare place) (.declare name params body)
        ([⟨⟨place, Storable.layoutOf DeclarationNode⟩, Storable.encode node⟩] ++
          (list ++ (text ++ ((grown ++ texts) ++ parts))))
  | nothing : Stands (.ret none) (.ret none) []
  | ret {node : ExprNode} {e : Expr} {ledger : Ledger} (stands : node.Stands e ledger) :
      Stands (.ret (some node)) (.ret (some e)) ledger
  | call {s : String} {function row : Slice} {nodes : List ExprNode} {arguments : List Expr}
      {parts text list : Ledger} (each : Each ExprNode.Stands nodes arguments parts)
      (named : Row (utf8 s) function text) (listed : Row nodes row list) :
      Stands (.call function row) (.call s arguments) (list ++ (text ++ parts))

theorem storeNames_triple (names : List String) {buffer : Buffer Slice} {front : List Slice} {part : Ledger}
    (stands : buffer.Stands front part) :
    Triple part (storeNames names buffer) fun last ledger => ∃ slices grown texts,
      last.Stands (front ++ slices) grown ∧ Texts slices names texts ∧ ledger = grown ++ texts := by
  induction names generalizing buffer front part with
  | nil =>
      exact .pure ⟨[], part, [], (List.append_nil front).symm ▸ stands, .nil, (List.append_nil part).symm⟩
  | cons name rest ih =>
      apply Triple.bind ((storeText_triple name).frame part)
      rintro bytes _ ⟨text, row, rfl⟩
      apply Triple.bind (((Buffer.push_triple stands bytes).frame text).perm List.perm_append_comm)
      rintro next _ ⟨grown, pushed, rfl⟩
      apply ((ih pushed).frame text).mono
      rintro last _ ⟨_, ⟨slices, whole, texts, lastStands, each, rfl⟩, rfl⟩
      rw [List.append_assoc, List.singleton_append] at lastStands
      exact ⟨bytes :: slices, whole, texts ++ text, lastStands, .cons row each, List.append_assoc _ _ _⟩

inductive Declared (name : String) (params : List String) (nodes : List StmtNode) (parts : Ledger) :
    Place → Ledger → Prop
  | declared {place : Place} {node : DeclarationNode} {slices : List Slice} {names : Buffer Slice}
      {grown texts text list : Ledger} (placed : names.Stands slices grown) (named : Texts slices params texts)
      (called : Row (utf8 name) node.name text) (listed : Row nodes node.body list)
      (same : node.params = names.toSlice) :
      Declared name params nodes parts place
        ([⟨⟨place, Storable.layoutOf DeclarationNode⟩, Storable.encode node⟩] ++
          (list ++ (text ++ ((grown ++ texts) ++ parts))))

theorem declaration_triple (name : String) (params : List String) (nodes : List StmtNode) (parts : Ledger) :
    Triple parts
      (do
        let names ← storeNames params (← Buffer.withCapacity params.length)
        let bytes ← storeText name
        let row ← MemoryM.storeAll nodes
        let node : DeclarationNode := ⟨bytes, names.toSlice, row⟩
        return StmtNode.declare (← MemoryM.store node))
      fun made ledger => ∃ place, made = .declare place ∧ Declared name params nodes parts place ledger := by
  apply Triple.bind ((Buffer.withCapacity_triple params.length).frame parts)
  rintro empty _ ⟨room, emptyStands, rfl⟩
  apply Triple.bind ((storeNames_triple params emptyStands).frame parts)
  rintro names _ ⟨_, ⟨slices, grown, texts, placed, named, rfl⟩, rfl⟩
  apply Triple.bind ((storeText_triple name).frame _)
  rintro bytes _ ⟨text, called, rfl⟩
  apply Triple.bind ((MemoryM.storeAll_triple nodes).frame _)
  rintro row _ ⟨list, listed, rfl⟩
  apply Triple.bind ((MemoryM.store_triple (⟨bytes, names.toSlice, row⟩ : DeclarationNode)).frame _)
  rintro place _ ⟨_, rfl, rfl⟩
  exact .pure ⟨place, rfl, .declared placed named called listed rfl⟩

theorem Declared.loads {depth : Nat} {name : String} {params : List String} {nodes : List StmtNode}
    {body : List Stmt} {place : Place} {parts ledger : Ledger}
    (declared : Declared name params nodes parts place ledger)
    (all : Loads parts (nodes.mapM (StmtNode.load depth)) body) :
    Loads ledger (StmtNode.load (depth + 1) (.declare place)) (.declare name params body) := by
  obtain @⟨node, slices, names, grown, texts, text, list, placed, named, called, listed, same⟩ := declared
  have texted : Loads texts (slices.mapM loadText) params :=
    named.mapM_loads fun slice s part _ row => loadText_loads row
  -- The parts are read one after another, each where it stands in the ledger.
  apply (load_loads place node).left.bind
  apply (loadText_loads called).left.right.right.bind
  rw [same]
  apply placed.loads.left.left.right.right.right.bind
  apply texted.right.left.right.right.right.bind
  apply listed.loads.left.right.bind
  exact all.right.right.right.right.bind .pure

mutual

theorem Stmt.store_triple (statement : Stmt) :
    Triple [] statement.store fun node ledger => node.Stands statement ledger := by
  cases statement with
  | declare name params body =>
      unfold Stmt.store
      apply Triple.bind (Stmt.storeAll_triple body)
      intro nodes parts each
      apply (declaration_triple name params nodes parts).mono
      rintro _ _ ⟨place, rfl, ⟨placed, named, called, listed, same⟩⟩
      exact .declare each placed named called listed same
  | ret result =>
      cases result with
      | none => exact .pure .nothing
      | some e =>
          apply Triple.bind (Expr.store_triple e)
          intro node ledger stands
          exact .pure (.ret stands)
  | call function arguments =>
      unfold Stmt.store
      apply Triple.bind (Expr.storeAll_triple arguments)
      intro nodes parts each
      apply (name_and_row_triple StmtNode.call function nodes parts).mono
      rintro _ _ ⟨name, row, text, list, rfl, named, listed, rfl⟩
      exact .call each named listed

theorem Stmt.storeAll_triple (statements : List Stmt) :
    Triple [] (Stmt.storeAll statements) fun nodes ledger => Each StmtNode.Stands nodes statements ledger := by
  cases statements with
  | nil => exact .pure .nil
  | cons statement rest =>
      unfold Stmt.storeAll
      exact Each.cons_triple (Stmt.store_triple statement) (Stmt.storeAll_triple rest)

end

theorem Stmt.depth_le_depthAll {statement : Stmt} {statements : List Stmt} (member : statement ∈ statements) :
    statement.depth ≤ Stmt.depthAll statements :=
  le_greatest (fun _ _ => rfl) member

theorem StmtNode.Stands.loads {depth : Nat} {node : StmtNode} {statement : Stmt} {ledger : Ledger}
    (stands : node.Stands statement ledger) (bound : statement.depth ≤ depth) :
    Loads ledger (node.load depth) statement := by
  cases stands with
  | nothing =>
      rw [load]
      exact .pure
  | ret stands =>
      rw [load]
      exact (stands.loads bound).bind .pure
  | call each named listed =>
      rw [load]
      apply call_loads Stmt.call named listed
      apply each.mapM_loads
      intro node e part member stands
      exact stands.loads (Nat.le_trans (Expr.depth_le_depthAll member) bound)
  | @declare place node name params body slices names nodes parts grown texts text list each placed named
      called listed same =>
      rw [Stmt.depth] at bound
      cases depth with
      | zero => cases bound
      | succ depth =>
          apply (Declared.declared placed named called listed same).loads
          apply each.mapM_loads
          intro node statement part member stands
          exact stands.loads (Nat.le_trans (Stmt.depth_le_depthAll member) (Nat.le_of_succ_le_succ bound))

/-! ## Programs -/

/-- Whether a stored program consists of the parts listed and reads back as a program. -/
def StoredProgram.Stands (stored : StoredProgram) (program : Program) (ledger : Ledger) : Prop :=
  ∃ nodes parts list, Each StmtNode.Stands nodes program parts ∧ Row nodes stored.statements list ∧
    stored.depth = Stmt.depthAll program ∧ ledger = list ++ parts

theorem Program.store_triple (program : Program) :
    Triple [] program.store fun stored ledger => stored.Stands program ledger := by
  apply Triple.bind (Stmt.storeAll_triple program)
  intro nodes parts each
  apply Triple.bind ((storeAll_triple nodes).frame parts)
  rintro row _ ⟨list, listed, rfl⟩
  exact .pure ⟨nodes, parts, list, each, listed, rfl, rfl⟩

theorem StoredProgram.Stands.loads {stored : StoredProgram} {program : Program} {ledger : Ledger}
    (stands : stored.Stands program ledger) : Loads ledger stored.load program := by
  obtain ⟨nodes, parts, list, each, listed, deep, rfl⟩ := stands
  apply listed.loads.left.bind
  have all : Loads parts (nodes.mapM (StmtNode.load stored.depth)) program := by
    apply each.mapM_loads
    intro node statement part member stands
    exact stands.loads (deep ▸ Stmt.depth_le_depthAll member)
  exact all.right

end ArenaLang
