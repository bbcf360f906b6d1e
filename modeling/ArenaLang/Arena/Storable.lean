import ArenaLang.Layout
import ArenaLang.Arena.Cell

namespace ArenaLang

class Storable (α : Type) where
  layout : Layout
  encode : α → List Cell
  decode? : List Cell → Option α
  stride : layout.align ∣ layout.size
  length_encode (a : α) : (encode a).length = layout.size
  decode?_encode (a : α) : decode? (encode a) = some a

namespace Storable

@[reducible] def ofNat {α : Type} (layout : Layout) (stride : layout.align ∣ layout.size) (toNat : α → Nat)
    (ofNat : Nat → α) (bounded : ∀ a, toNat a < Nat.pow 256 layout.size)
    (inverse : ∀ a, ofNat (toNat a) = a) : Storable α where
  layout := layout
  encode a := Cell.ofBytes (Cell.bytesOfNat layout.size (toNat a))
  decode? cells := (Cell.bytes? cells).map fun bytes => ofNat (Cell.natOfBytes bytes)
  stride := stride
  length_encode a := by simp [Cell.ofBytes, Cell.length_bytesOfNat]
  decode?_encode a := by
    simp [Cell.bytes?_ofBytes, Cell.natOfBytes_bytesOfNat (bounded a), inverse a]

@[reducible] def ofItem {α : Type} (layout : Layout) (stride : layout.align ∣ layout.size)
    (positive : 0 < layout.size) (toItem : α → Item) (ofItem? : Item → Option α)
    (inverse : ∀ a, ofItem? (toItem a) = some a) : Storable α where
  layout := layout
  encode a := Cell.ofItem layout.size (toItem a)
  decode? cells := (Cell.item? cells).bind ofItem?
  stride := stride
  length_encode a := Cell.length_ofItem positive (toItem a)
  decode?_encode a := by simp [Cell.item?_ofItem, inverse a]

/-! ## Plain data -/

instance : Storable UInt8 :=
  ofNat ⟨1, 1, ⟨0, rfl⟩, by decide⟩ (by decide) UInt8.toNat UInt8.ofNat (·.toNat_lt)
    fun _ => UInt8.ofNat_toNat

instance : Storable UInt16 :=
  ofNat ⟨2, 2, ⟨1, rfl⟩, by decide⟩ (by decide) UInt16.toNat UInt16.ofNat (·.toNat_lt)
    fun _ => UInt16.ofNat_toNat

instance : Storable UInt32 :=
  ofNat ⟨4, 4, ⟨2, rfl⟩, by decide⟩ (by decide) UInt32.toNat UInt32.ofNat (·.toNat_lt)
    fun _ => UInt32.ofNat_toNat

instance : Storable UInt64 :=
  ofNat (.words 1) (by decide) UInt64.toNat UInt64.ofNat (·.toNat_lt) fun _ => UInt64.ofNat_toNat

instance : Storable (BitVec 128) :=
  ofNat ⟨16, 16, ⟨4, rfl⟩, by decide⟩ (by decide) BitVec.toNat (BitVec.ofNat 128) (·.isLt)
    fun a => BitVec.ofNat_toNat 128 a ▸ BitVec.setWidth_eq a

instance : Storable Int32 :=
  ofNat ⟨4, 4, ⟨2, rfl⟩, by decide⟩ (by decide) (·.toUInt32.toNat) (fun n => (UInt32.ofNat n).toInt32)
    (·.toUInt32.toNat_lt) fun a => by simp

instance : Storable Number :=
  ofNat (.words 1) (by decide) (·.bits.toNat) (fun n => ⟨UInt64.ofNat n⟩) (·.bits.toNat_lt)
    fun _ => by simp

instance : Storable (UInt8 × UInt8 × UInt8) where
  layout := ⟨3, 1, ⟨0, rfl⟩, by decide⟩
  encode a := Cell.ofBytes [a.1, a.2.1, a.2.2]
  decode?
    | [.byte x, .byte y, .byte z] => some (x, y, z)
    | _ => none
  stride := by decide
  length_encode _ := rfl
  decode?_encode _ := rfl

instance : Storable Unit where
  layout := ⟨0, 1, ⟨0, rfl⟩, by decide⟩
  encode _ := []
  decode? _ := some ()
  stride := by decide
  length_encode _ := rfl
  decode?_encode _ := rfl

/-! ## Items -/

instance : Storable String :=
  ofItem (.words 2) (by decide) (by decide) .text (fun | .text s => some s | _ => none) fun _ => rfl

instance : Storable Value :=
  ofItem (.words 3) (by decide) (by decide) .value (fun | .value v => some v | _ => none) fun _ => rfl

instance : Storable Binding :=
  ofItem (.words 5) (by decide) (by decide) .binding (fun | .binding b => some b | _ => none)
    fun _ => rfl

instance : Storable Declaration :=
  ofItem (.words 6) (by decide) (by decide) .declaration
    (fun | .declaration d => some d | _ => none) fun _ => rfl

instance : Storable Slice :=
  ofItem (.words 2) (by decide) (by decide) .slice (fun | .slice s => some s | _ => none) fun _ => rfl

instance : Storable ExprNode :=
  ofItem (.words 5) (by decide) (by decide) .exprNode (fun | .exprNode n => some n | _ => none)
    fun _ => rfl

instance : Storable StmtNode :=
  ofItem (.words 5) (by decide) (by decide) .stmtNode (fun | .stmtNode n => some n | _ => none)
    fun _ => rfl

instance : Storable DeclarationNode :=
  ofItem (.words 6) (by decide) (by decide) .declarationNode
    (fun | .declarationNode n => some n | _ => none) fun _ => rfl

/-! ## Rows of elements -/

variable {α : Type} [Storable α]

def layoutOf (α : Type) [Storable α] : Layout := layout (α := α)

def widthOf (α : Type) [Storable α] : Nat := (layoutOf α).size

def encodeAll (elements : List α) : List Cell := elements.flatMap encode

def decodeAll? : Nat → List Cell → Option (List α)
  | 0, _ => some []
  | count + 1, cells =>
      match decode? (cells.take (widthOf α)), decodeAll? count (cells.drop (widthOf α)) with
      | some a, some rest => some (a :: rest)
      | _, _ => none

theorem length_encodeAll (elements : List α) :
    (encodeAll elements).length = elements.length * widthOf α := by
  induction elements with
  | nil => simp [encodeAll]
  | cons a rest ih =>
      simp only [encodeAll, List.flatMap_cons, List.length_append, List.length_cons] at ih ⊢
      rw [ih, length_encode, Nat.add_mul, Nat.one_mul, Nat.add_comm]
      rfl

theorem decodeAll?_encodeAll (elements : List α) (behind : List Cell) :
    decodeAll? elements.length (encodeAll elements ++ behind) = some elements := by
  induction elements with
  | nil => rfl
  | cons a rest ih =>
      have size : (encode a).length = widthOf α := length_encode a
      have whole : encodeAll (a :: rest) ++ behind = encode a ++ (encodeAll rest ++ behind) := by
        simp [encodeAll]
      rw [whole, List.length_cons, decodeAll?, ← size, List.take_left, List.drop_left, ih,
        decode?_encode]

end Storable

end ArenaLang
