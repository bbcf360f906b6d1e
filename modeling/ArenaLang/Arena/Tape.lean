import ArenaLang.Arena.Cell

namespace ArenaLang

structure Tape where
  cells : Array Cell

namespace Tape

def empty : Tape := ⟨#[]⟩

def get (tape : Tape) (offset : Nat) : Cell := tape.cells.getD offset .blank

def set (offset : Nat) (cell : Cell) (tape : Tape) : Tape :=
  if offset < tape.cells.size then ⟨tape.cells.setIfInBounds offset cell⟩
  else ⟨(tape.cells ++ Array.replicate (offset - tape.cells.size) Cell.blank).push cell⟩

def write (offset : Nat) : List Cell → Tape → Tape
  | [], tape => tape
  | cell :: rest, tape => write (offset + 1) rest (tape.set offset cell)

def read (tape : Tape) : Nat → Nat → List Cell
  | _, 0 => []
  | offset, count + 1 => tape.get offset :: tape.read (offset + 1) count

theorem get_set (tape : Tape) (offset other : Nat) (cell : Cell) :
    (tape.set offset cell).get other = if other = offset then cell else tape.get other := by
  unfold set get
  split
  · simp only [Array.getD_eq_getD_getElem?, Array.getElem?_setIfInBounds]
    by_cases same : offset = other
    · simp_all
    · simp [same, Ne.symm same]
  · simp only [Array.getD_eq_getD_getElem?, Array.getElem?_push, Array.getElem?_append,
      Array.getElem?_replicate, Array.size_append, Array.size_replicate]
    grind

theorem get_write (tape : Tape) (offset other : Nat) (cells : List Cell) :
    (tape.write offset cells).get other =
      if offset ≤ other then (cells[other - offset]?).getD (tape.get other) else tape.get other := by
  induction cells generalizing tape offset with
  | nil => simp [write]
  | cons cell rest ih =>
      rw [write, ih, get_set]
      grind

theorem length_read (tape : Tape) (offset count : Nat) : (tape.read offset count).length = count := by
  induction count generalizing offset with
  | zero => rfl
  | succ count ih => simp [read, ih]

theorem getElem?_read (tape : Tape) (offset count index : Nat) :
    (tape.read offset count)[index]? = if index < count then some (tape.get (offset + index)) else none := by
  induction count generalizing offset index with
  | zero => simp [read]
  | succ count ih =>
      cases index with
      | zero => simp [read]
      | succ index =>
          simp only [read, List.getElem?_cons_succ, ih, Nat.add_lt_add_iff_right]
          grind

theorem read_write_apart (tape : Tape) {offset other count : Nat} {cells : List Cell}
    (apart : other + count ≤ offset ∨ offset + cells.length ≤ other) :
    (tape.write offset cells).read other count = tape.read other count := by
  apply List.ext_getElem?
  intro index
  rw [getElem?_read, getElem?_read, get_write]
  grind

end Tape

end ArenaLang
