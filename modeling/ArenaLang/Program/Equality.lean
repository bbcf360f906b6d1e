import ArenaLang.Program

namespace ArenaLang

mutual

def Expr.same : Expr → Expr → Bool
  | .number x, .number y => x.same y
  | .text s, .text t => s == t
  | .variable x, .variable y => x == y
  | .call f xs, .call g ys => f == g && Expr.sameAll xs ys
  | _, _ => false

def Expr.sameAll : List Expr → List Expr → Bool
  | [], [] => true
  | x :: xs, y :: ys => x.same y && Expr.sameAll xs ys
  | _, _ => false

end

def Expr.sameOption : Option Expr → Option Expr → Bool
  | none, none => true
  | some x, some y => x.same y
  | _, _ => false

mutual

def Stmt.same : Stmt → Stmt → Bool
  | .declare f ps body, .declare g qs other => f == g && ps == qs && Stmt.sameAll body other
  | .ret x, .ret y => Expr.sameOption x y
  | .call f xs, .call g ys => f == g && Expr.sameAll xs ys
  | _, _ => false

def Stmt.sameAll : List Stmt → List Stmt → Bool
  | [], [] => true
  | x :: xs, y :: ys => x.same y && Stmt.sameAll xs ys
  | _, _ => false

end

def Program.same (program other : Program) : Bool := Stmt.sameAll program other

end ArenaLang
