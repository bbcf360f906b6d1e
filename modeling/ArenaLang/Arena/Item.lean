import ArenaLang.Binding
import ArenaLang.Program

namespace ArenaLang

structure Place where
  region : Nat
  offset : Nat
deriving DecidableEq

/-- Elements in a row; a row that never needed memory has no place. -/
structure Slice where
  place : Option Place
  length : Nat
deriving DecidableEq

inductive ExprNode where
  | number (n : Number)
  | text (bytes : Slice)
  | variable (name : Slice)
  | call (function : Slice) (arguments : Slice)
deriving DecidableEq

structure DeclarationNode where
  name : Slice
  params : Slice
  body : Slice
deriving DecidableEq

inductive StmtNode where
  | declare (declaration : Place)
  | ret (result : Option ExprNode)
  | call (function : Slice) (arguments : Slice)
deriving DecidableEq

inductive Item where
  | text (s : String)
  | value (v : Value)
  | binding (b : Binding)
  | declaration (d : Declaration)
  | slice (s : Slice)
  | exprNode (node : ExprNode)
  | stmtNode (node : StmtNode)
  | declarationNode (node : DeclarationNode)

end ArenaLang
