import ArenaLang.Arena.Item

/-!
# Cells

One cell for each byte of memory. A cell holds a byte, or a part of an item: the item stands in the
first of its cells and every further one counts its distance from there, so an item can be read
back only if all of its cells are still in place. Naturals are written as bytes, the least
significant first.
-/

namespace ArenaLang

inductive Cell where
  | blank
  | byte (b : UInt8)
  | head (item : Item)
  | tail (distance : Nat)

namespace Cell

def bytesOfNat : Nat → Nat → List UInt8
  | 0, _ => []
  | width + 1, n => UInt8.ofNat n :: bytesOfNat width (n / 256)

def natOfBytes : List UInt8 → Nat
  | [] => 0
  | b :: rest => b.toNat + 256 * natOfBytes rest

theorem length_bytesOfNat (width n : Nat) : (bytesOfNat width n).length = width := by
  induction width generalizing n with
  | zero => rfl
  | succ width ih => simp [bytesOfNat, ih]

theorem natOfBytes_bytesOfNat {width n : Nat} (bounded : n < Nat.pow 256 width) :
    natOfBytes (bytesOfNat width n) = n := by
  induction width generalizing n with
  | zero => simp_all [bytesOfNat, natOfBytes]
  | succ width ih =>
      have rest : n / 256 < Nat.pow 256 width :=
        Nat.div_lt_of_lt_mul (by rw [Nat.mul_comm]; exact bounded)
      simp only [bytesOfNat, natOfBytes, ih rest, UInt8.toNat_ofNat']
      omega

def byte? : Cell → Option UInt8
  | .byte b => some b
  | _ => none

def ofBytes (bytes : List UInt8) : List Cell := bytes.map .byte

def bytes? (cells : List Cell) : Option (List UInt8) := cells.mapM byte?

theorem bytes?_ofBytes (bytes : List UInt8) : bytes? (ofBytes bytes) = some bytes := by
  induction bytes with
  | nil => rfl
  | cons b rest ih =>
      have parts : bytes? (ofBytes (b :: rest)) = (bytes? (ofBytes rest)).map (b :: ·) := by
        simp only [bytes?, ofBytes, List.map_cons, List.mapM_cons, byte?]
        cases (rest.map Cell.byte).mapM byte? <;> rfl
      rw [parts, ih]
      rfl

def tails : Nat → Nat → List Cell
  | 0, _ => []
  | count + 1, distance => .tail distance :: tails count (distance + 1)

def areTails : Nat → List Cell → Bool
  | _, [] => true
  | distance, .tail d :: rest => d == distance && areTails (distance + 1) rest
  | _, _ :: _ => false

theorem length_tails (count distance : Nat) : (tails count distance).length = count := by
  induction count generalizing distance with
  | zero => rfl
  | succ count ih => simp [tails, ih]

theorem areTails_tails (count distance : Nat) : areTails distance (tails count distance) = true := by
  induction count generalizing distance with
  | zero => rfl
  | succ count ih => simp [tails, areTails, ih]

def ofItem (size : Nat) (item : Item) : List Cell := .head item :: tails (size - 1) 1

def item? : List Cell → Option Item
  | .head item :: rest => if areTails 1 rest then some item else none
  | _ => none

theorem length_ofItem {size : Nat} (positive : 0 < size) (item : Item) :
    (ofItem size item).length = size := by
  simp only [ofItem, List.length_cons, length_tails]
  omega

theorem item?_ofItem (size : Nat) (item : Item) : item? (ofItem size item) = some item := by
  simp [item?, ofItem, areTails_tails]

end Cell

end ArenaLang
