import ArenaLang.Number

namespace ArenaLang

inductive Expr where
  | number (n : Number)
  | text (s : String)
  | variable (name : String)
  | call (function : String) (arguments : List Expr)

inductive Stmt where
  | declare (name : String) (params : List String) (body : List Stmt)
  | ret (result : Option Expr)
  | call (function : String) (arguments : List Expr)

abbrev Program := List Stmt

structure Declaration where
  name : String
  params : List String
  body : List Stmt

def Declaration.arity (d : Declaration) : Nat := d.params.length

def Stmt.declared? : Stmt → Option Declaration
  | .declare name params body => some ⟨name, params, body⟩
  | _ => none

def Program.declarations (program : Program) : List Declaration := program.filterMap Stmt.declared?

end ArenaLang
