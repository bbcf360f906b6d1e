import ArenaLang.Program.Equality
import Mathlib.Data.List.Forall2

namespace ArenaLang

/-! ## Numbers -/

abbrev Number.Equal (x y : Number) : Prop := x.same y = true

namespace Number.Equal

variable {x y z : Number}

theorem symm (equal : x.Equal y) : y.Equal x := by
  unfold Number.Equal Number.same at *
  grind

theorem trans (first : x.Equal y) (second : y.Equal z) : x.Equal z := by
  unfold Number.Equal Number.same at *
  unfold Number.isZero at *
  grind

theorem self_iff : x.Equal x ↔ x.isNaN = false := by
  simp [Number.Equal, Number.same]

end Number.Equal

/-! ## Trees -/

mutual

def Expr.skeleton : Expr → Expr
  | .number _ => .number .zero
  | .text s => .text s
  | .variable name => .variable name
  | .call function arguments => .call function (Expr.skeletonAll arguments)

def Expr.skeletonAll : List Expr → List Expr
  | [] => []
  | e :: rest => e.skeleton :: Expr.skeletonAll rest

end

mutual

def Expr.numbers : Expr → List Number
  | .number n => [n]
  | .text _ | .variable _ => []
  | .call _ arguments => Expr.numbersAll arguments

def Expr.numbersAll : List Expr → List Number
  | [] => []
  | e :: rest => e.numbers ++ Expr.numbersAll rest

end

mutual

def Stmt.skeleton : Stmt → Stmt
  | .declare name params body => .declare name params (Stmt.skeletonAll body)
  | .ret result => .ret (result.map Expr.skeleton)
  | .call function arguments => .call function (Expr.skeletonAll arguments)

def Stmt.skeletonAll : List Stmt → List Stmt
  | [] => []
  | s :: rest => s.skeleton :: Stmt.skeletonAll rest

end

mutual

def Stmt.numbers : Stmt → List Number
  | .declare _ _ body => Stmt.numbersAll body
  | .ret none => []
  | .ret (some e) => e.numbers
  | .call _ arguments => Expr.numbersAll arguments

def Stmt.numbersAll : List Stmt → List Number
  | [] => []
  | s :: rest => s.numbers ++ Stmt.numbersAll rest

end

def Program.skeleton (program : Program) : Program := Stmt.skeletonAll program

def Program.numbers (program : Program) : List Number := Stmt.numbersAll program

mutual

theorem Expr.length_numbers_skeleton (e : Expr) : e.skeleton.numbers.length = e.numbers.length := by
  cases e with
  | number n => rfl
  | text s => rfl
  | «variable» name => rfl
  | call function arguments => exact Expr.length_numbersAll_skeletonAll arguments

theorem Expr.length_numbersAll_skeletonAll (expressions : List Expr) :
    (Expr.numbersAll (Expr.skeletonAll expressions)).length = (Expr.numbersAll expressions).length := by
  cases expressions with
  | nil => rfl
  | cons e rest =>
      simp only [skeletonAll, numbersAll, List.length_append, Expr.length_numbers_skeleton e,
        Expr.length_numbersAll_skeletonAll rest]

end

mutual

theorem Stmt.length_numbers_skeleton (s : Stmt) : s.skeleton.numbers.length = s.numbers.length := by
  cases s with
  | declare name params body => exact Stmt.length_numbersAll_skeletonAll body
  | ret result =>
      cases result with
      | none => rfl
      | some e => exact e.length_numbers_skeleton
  | call function arguments => exact Expr.length_numbersAll_skeletonAll arguments

theorem Stmt.length_numbersAll_skeletonAll (statements : List Stmt) :
    (Stmt.numbersAll (Stmt.skeletonAll statements)).length = (Stmt.numbersAll statements).length := by
  cases statements with
  | nil => rfl
  | cons s rest =>
      simp only [skeletonAll, numbersAll, List.length_append, Stmt.length_numbers_skeleton s,
        Stmt.length_numbersAll_skeletonAll rest]

end

theorem forall₂_append_iff {α β : Type} {related : α → β → Prop} {front more : List α} {back others : List β}
    (length : front.length = back.length) :
    List.Forall₂ related (front ++ more) (back ++ others) ↔
      List.Forall₂ related front back ∧ List.Forall₂ related more others := by
  constructor
  · intro all
    have first := List.forall₂_take_append _ back others all
    have second := List.forall₂_drop_append _ back others all
    rw [← length, List.take_left] at first
    rw [← length, List.drop_left] at second
    exact ⟨first, second⟩
  · rintro ⟨first, second⟩
    exact List.rel_append first second

theorem forall₂_trans {α : Type} {related : α → α → Prop} {front middle back : List α}
    (trans : ∀ a b c, related a b → related b c → related a c) (first : List.Forall₂ related front middle)
    (second : List.Forall₂ related middle back) : List.Forall₂ related front back := by
  induction first generalizing back with
  | nil => exact second
  | cons head _ ih =>
      cases second with
      | cons next rest => exact .cons (trans _ _ _ head next) (ih rest)

theorem and_alike {first second : Bool} {same others : Prop} {front back more rest : List Number}
    (one : first = true ↔ same ∧ List.Forall₂ Number.Equal front back)
    (two : second = true ↔ others ∧ List.Forall₂ Number.Equal more rest)
    (length : same → front.length = back.length) :
    (first && second) = true ↔ (same ∧ others) ∧ List.Forall₂ Number.Equal (front ++ more) (back ++ rest) := by
  rw [Bool.and_eq_true, one, two]
  constructor
  · rintro ⟨⟨alike, equal⟩, behind, equals⟩
    exact ⟨⟨alike, behind⟩, (forall₂_append_iff (length alike)).mpr ⟨equal, equals⟩⟩
  · rintro ⟨⟨alike, behind⟩, all⟩
    obtain ⟨equal, equals⟩ := (forall₂_append_iff (length alike)).mp all
    exact ⟨⟨alike, equal⟩, behind, equals⟩

theorem Expr.length_numbers {e f : Expr} (alike : e.skeleton = f.skeleton) : e.numbers.length = f.numbers.length := by
  rw [← e.length_numbers_skeleton, alike, f.length_numbers_skeleton]

theorem Stmt.length_numbers {s t : Stmt} (alike : s.skeleton = t.skeleton) : s.numbers.length = t.numbers.length := by
  rw [← s.length_numbers_skeleton, alike, t.length_numbers_skeleton]

mutual

theorem Expr.same_iff (e f : Expr) :
    e.same f = true ↔ e.skeleton = f.skeleton ∧ List.Forall₂ Number.Equal e.numbers f.numbers := by
  cases e with
  | number n => cases f <;> simp [same, skeleton, numbers]
  | text s => cases f <;> simp [same, skeleton, numbers]
  | «variable» name => cases f <;> simp [same, skeleton, numbers]
  | call function arguments =>
      cases f with
      | call other others =>
          simp only [same, skeleton, numbers, Bool.and_eq_true, beq_iff_eq, call.injEq, and_assoc,
            Expr.sameAll_iff arguments others]
      | _ => simp [same, skeleton]

theorem Expr.sameAll_iff (expressions others : List Expr) :
    Expr.sameAll expressions others = true ↔ Expr.skeletonAll expressions = Expr.skeletonAll others ∧
      List.Forall₂ Number.Equal (Expr.numbersAll expressions) (Expr.numbersAll others) := by
  cases expressions with
  | nil => cases others <;> simp [sameAll, skeletonAll, numbersAll]
  | cons e rest =>
      cases others with
      | nil => simp [sameAll, skeletonAll]
      | cons f more =>
          simp only [sameAll, skeletonAll, numbersAll, List.cons.injEq]
          exact and_alike (Expr.same_iff e f) (Expr.sameAll_iff rest more) Expr.length_numbers

end

theorem Expr.sameOption_iff (result other : Option Expr) :
    Expr.sameOption result other = true ↔ (Stmt.ret result).skeleton = (Stmt.ret other).skeleton ∧
      List.Forall₂ Number.Equal (Stmt.ret result).numbers (Stmt.ret other).numbers := by
  cases result with
  | none => cases other <;> simp [sameOption, Stmt.skeleton, Stmt.numbers]
  | some e =>
      cases other with
      | none => simp [sameOption, Stmt.skeleton]
      | some f => simp [sameOption, Stmt.skeleton, Stmt.numbers, e.same_iff f]

mutual

theorem Stmt.same_iff (s t : Stmt) :
    s.same t = true ↔ s.skeleton = t.skeleton ∧ List.Forall₂ Number.Equal s.numbers t.numbers := by
  cases s with
  | declare name params body =>
      cases t with
      | declare other others behind =>
          simp only [same, skeleton, numbers, Bool.and_eq_true, beq_iff_eq, declare.injEq, and_assoc,
            Stmt.sameAll_iff body behind]
      | _ => simp [same, skeleton]
  | ret result =>
      cases t with
      | ret other =>
          rw [same]
          exact Expr.sameOption_iff result other
      | _ => simp [same, skeleton]
  | call function arguments =>
      cases t with
      | call other others =>
          simp only [same, skeleton, numbers, Bool.and_eq_true, beq_iff_eq, call.injEq, and_assoc,
            Expr.sameAll_iff arguments others]
      | _ => simp [same, skeleton]

theorem Stmt.sameAll_iff (statements others : List Stmt) :
    Stmt.sameAll statements others = true ↔ Stmt.skeletonAll statements = Stmt.skeletonAll others ∧
      List.Forall₂ Number.Equal (Stmt.numbersAll statements) (Stmt.numbersAll others) := by
  cases statements with
  | nil => cases others <;> simp [sameAll, skeletonAll, numbersAll]
  | cons s rest =>
      cases others with
      | nil => simp [sameAll, skeletonAll]
      | cons t more =>
          simp only [sameAll, skeletonAll, numbersAll, List.cons.injEq]
          exact and_alike (Stmt.same_iff s t) (Stmt.sameAll_iff rest more) Stmt.length_numbers

end

namespace Program

variable {p q r : Program}

/-- Whether programs are the same but for their numbers, and these are equal in pairs. -/
def Alike (p q : Program) : Prop :=
  p.skeleton = q.skeleton ∧ List.Forall₂ Number.Equal p.numbers q.numbers

theorem same_iff : p.same q = true ↔ p.Alike q := Stmt.sameAll_iff p q

theorem Alike.symm (alike : p.Alike q) : q.Alike p :=
  ⟨alike.1.symm, alike.2.flip.imp fun _ _ => Number.Equal.symm⟩

theorem Alike.trans (first : p.Alike q) (second : q.Alike r) : p.Alike r :=
  ⟨first.1.trans second.1, forall₂_trans (fun _ _ _ => Number.Equal.trans) first.2 second.2⟩

theorem alike_self_iff : p.Alike p ↔ ∀ number ∈ p.numbers, number.isNaN = false := by
  simp [Alike, List.forall₂_same, Number.Equal.self_iff]

end Program

end ArenaLang
