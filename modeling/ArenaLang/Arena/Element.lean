import ArenaLang.Arena.Buffer

namespace ArenaLang

inductive ElementType where
  | u8
  | u16
  | u32
  | u64
  | u128
  | i32
  | f64
  | unit
  | threeBytes
  | text
  | value
deriving DecidableEq

namespace ElementType

abbrev Carrier : ElementType → Type
  | u8 => UInt8
  | u16 => UInt16
  | u32 => UInt32
  | u64 => UInt64
  | u128 => BitVec 128
  | i32 => Int32
  | f64 => Number
  | unit => Unit
  | threeBytes => UInt8 × UInt8 × UInt8
  | text => String
  | value => Value

instance (t : ElementType) : Storable t.Carrier :=
  match t with
  | u8 => inferInstanceAs (Storable UInt8)
  | u16 => inferInstanceAs (Storable UInt16)
  | u32 => inferInstanceAs (Storable UInt32)
  | u64 => inferInstanceAs (Storable UInt64)
  | u128 => inferInstanceAs (Storable (BitVec 128))
  | i32 => inferInstanceAs (Storable Int32)
  | f64 => inferInstanceAs (Storable Number)
  | unit => inferInstanceAs (Storable Unit)
  | threeBytes => inferInstanceAs (Storable (UInt8 × UInt8 × UInt8))
  | text => inferInstanceAs (Storable String)
  | value => inferInstanceAs (Storable Value)

def same : (t : ElementType) → t.Carrier → t.Carrier → Bool
  | u8, a, b => a == b
  | u16, a, b => a == b
  | u32, a, b => a == b
  | u64, a, b => a == b
  | u128, a, b => a == b
  | i32, a, b => a == b
  | f64, a, b => Number.same a b
  | unit, _, _ => true
  | threeBytes, a, b => a == b
  | text, a, b => a == b
  | value, a, b => Value.same a b

def sameAll (t : ElementType) : List t.Carrier → List t.Carrier → Bool
  | [], [] => true
  | a :: rest, b :: others => t.same a b && sameAll t rest others
  | _, _ => false

def bracketed (members : List String) : String := "[" ++ ", ".intercalate members ++ "]"

def inspect : (t : ElementType) → t.Carrier → String
  | u8, a => toString a.toNat
  | u16, a => toString a.toNat
  | u32, a => toString a.toNat
  | u64, a => toString a.toNat
  | u128, a => toString a.toNat
  | i32, a => toString a.toInt
  | f64, a => Number.text .exact a
  | unit, _ => "()"
  | threeBytes, (a, b, c) => bracketed ([a, b, c].map fun byte => toString byte.toNat)
  | text, a => Text.quoted a
  | value, a => Value.inspect a

def inspectAll (t : ElementType) (elements : List t.Carrier) : String :=
  bracketed (elements.map t.inspect)

end ElementType

end ArenaLang
