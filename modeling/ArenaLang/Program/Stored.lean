import ArenaLang.Arena.Buffer
import ArenaLang.Program

namespace ArenaLang

open MemoryM

/-! ## Nesting -/

mutual

def Expr.depth : Expr → Nat
  | .call _ arguments => Expr.depthAll arguments + 1
  | _ => 0

def Expr.depthAll : List Expr → Nat
  | [] => 0
  | e :: rest => max e.depth (Expr.depthAll rest)

end

mutual

def Stmt.depth : Stmt → Nat
  | .declare _ _ body => Stmt.depthAll body + 1
  | .ret none => 0
  | .ret (some e) => e.depth
  | .call _ arguments => Expr.depthAll arguments

def Stmt.depthAll : List Stmt → Nat
  | [] => 0
  | s :: rest => max s.depth (Stmt.depthAll rest)

end

/-! ## Laying out -/

mutual

/-- Lays out an expression: the arguments of a call, then its name, then the row of the arguments'
nodes. -/
def Expr.store : Expr → MemoryM ExprNode
  | .number n => pure (.number n)
  | .text s => return .text (← storeText s)
  | .variable name => return .variable (← storeText name)
  | .call function arguments => do
      let nodes ← Expr.storeAll arguments
      let name ← storeText function
      return .call name (← MemoryM.storeAll nodes)

def Expr.storeAll : List Expr → MemoryM (List ExprNode)
  | [] => pure []
  | e :: rest => return (← e.store) :: (← Expr.storeAll rest)

end

def storeNames : List String → Buffer Slice → MemoryM (Buffer Slice)
  | [], buffer => pure buffer
  | name :: rest, buffer => do
      let bytes ← storeText name
      storeNames rest (← buffer.push bytes)

mutual

/-- Lays out a statement: the body of a declaration, then its parameters' names, its own name, the
row of the body's nodes, and the declaration itself. -/
def Stmt.store : Stmt → MemoryM StmtNode
  | .declare name params body => do
      let nodes ← Stmt.storeAll body
      let names ← storeNames params (← Buffer.withCapacity params.length)
      let bytes ← storeText name
      let row ← MemoryM.storeAll nodes
      let node : DeclarationNode := ⟨bytes, names.toSlice, row⟩
      return .declare (← MemoryM.store node)
  | .ret none => pure (.ret none)
  | .ret (some e) => return .ret (some (← e.store))
  | .call function arguments => do
      let nodes ← Expr.storeAll arguments
      let name ← storeText function
      return .call name (← MemoryM.storeAll nodes)

def Stmt.storeAll : List Stmt → MemoryM (List StmtNode)
  | [] => pure []
  | s :: rest => return (← s.store) :: (← Stmt.storeAll rest)

end

/-- A program in an arena: the row of its statements, and how deep they are nested. -/
structure StoredProgram where
  statements : Slice
  depth : Nat

def Program.store (program : Program) : MemoryM StoredProgram := do
  let nodes ← Stmt.storeAll program
  return ⟨← MemoryM.storeAll nodes, Stmt.depthAll program⟩

/-! ## Reading back -/

def ExprNode.load : Nat → ExprNode → MemoryM Expr
  | _, .number n => pure (.number n)
  | _, .text bytes => return .text (← loadText bytes)
  | _, .variable name => return .variable (← loadText name)
  | 0, .call _ _ => throw (.faulty .unreadable)
  | depth + 1, .call function arguments => do
      let name ← loadText function
      let nodes ← loadAll ExprNode arguments
      return .call name (← nodes.mapM (ExprNode.load depth))

def StmtNode.load : Nat → StmtNode → MemoryM Stmt
  | _, .ret none => pure (.ret none)
  | depth, .ret (some node) => return .ret (some (← node.load depth))
  | depth, .call function arguments => do
      let name ← loadText function
      let nodes ← loadAll ExprNode arguments
      return .call name (← nodes.mapM (ExprNode.load depth))
  | 0, .declare _ => throw (.faulty .unreadable)
  | depth + 1, .declare place => do
      let node ← MemoryM.load DeclarationNode place
      let name ← loadText node.name
      let params ← (← loadAll Slice node.params).mapM loadText
      let nodes ← loadAll StmtNode node.body
      return .declare name params (← nodes.mapM (StmtNode.load depth))

def StoredProgram.load (stored : StoredProgram) : MemoryM Program := do
  (← loadAll StmtNode stored.statements).mapM (StmtNode.load stored.depth)

/-! ## Comparing -/

/-- Steps that read two memories, or one memory twice, and change neither. -/
abbrev PairM := ReaderT (Memory × Memory) (Except Failure)

namespace PairM

variable {α : Type}

def left (step : MemoryM α) : PairM α := fun memories => (step memories.1).1

def right (step : MemoryM α) : PairM α := fun memories => (step memories.2).1

def both (first second : PairM Bool) : PairM Bool := do
  if ← first then second else return false

def sameMembers (same : α → α → PairM Bool) : List α → List α → PairM Bool
  | [], [] => pure true
  | a :: rest, b :: others => both (same a b) (sameMembers same rest others)
  | _, _ => pure false

def sameRows [Storable α] (same : α → α → PairM Bool) (row other : Slice) : PairM Bool := do
  if row.length = other.length then
    sameMembers same (← left (loadAll α row)) (← right (loadAll α other))
  else return false

def sameTexts : Slice → Slice → PairM Bool := sameRows fun (x y : UInt8) => pure (x == y)

end PairM

open PairM

def ExprNode.same : Nat → ExprNode → ExprNode → PairM Bool
  | _, .number x, .number y => pure (x.same y)
  | _, .text s, .text t => sameTexts s t
  | _, .variable x, .variable y => sameTexts x y
  | 0, .call _ _, .call _ _ => throw (.faulty .unreadable)
  | depth + 1, .call f xs, .call g ys => both (sameTexts f g) (sameRows (ExprNode.same depth) xs ys)
  | _, _, _ => pure false

def StmtNode.same : Nat → StmtNode → StmtNode → PairM Bool
  | _, .ret none, .ret none => pure true
  | depth, .ret (some x), .ret (some y) => x.same depth y
  | depth, .call f xs, .call g ys => both (sameTexts f g) (sameRows (ExprNode.same depth) xs ys)
  | 0, .declare _, .declare _ => throw (.faulty .unreadable)
  | depth + 1, .declare place, .declare second => do
      let node ← left (MemoryM.load DeclarationNode place)
      let other ← right (MemoryM.load DeclarationNode second)
      both (sameTexts node.name other.name) <| both (sameRows sameTexts node.params other.params) <|
        sameRows (StmtNode.same depth) node.body other.body
  | _, _, _ => pure false

def StoredProgram.sameAcross (stored other : StoredProgram) : PairM Bool :=
  sameRows (StmtNode.same stored.depth) stored.statements other.statements

def StoredProgram.same (stored other : StoredProgram) : MemoryM Bool :=
  fun memory => (stored.sameAcross other (memory, memory), memory)

end ArenaLang
