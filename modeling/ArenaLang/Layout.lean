import ArenaLang.Word

namespace ArenaLang

def Layout.bound : Nat := 1 <<< 63

structure Layout where
  size : Nat
  align : Nat
  powerOfTwo : align.isPowerOfTwo
  bounded : size + align ≤ Layout.bound

namespace Layout

def of? (size align : Nat) : Option Layout :=
  if h : align.isPowerOfTwo ∧ size + align ≤ bound then some ⟨size, align, h.1, h.2⟩ else none

def array? (element : Layout) (count : Nat) : Option Layout := of? (count * element.size) element.align

def resize? (layout : Layout) (size : Nat) : Option Layout := of? size layout.align

def bytes? (size : Nat) : Option Layout := of? size 1

def words (count : Nat) (few : count ≤ 16 := by decide) : Layout :=
  ⟨8 * count, 8, ⟨3, rfl⟩, by simp only [bound]; omega⟩

theorem align_pos (layout : Layout) : 0 < layout.align := by
  obtain ⟨exponent, h⟩ := layout.powerOfTwo
  rw [h]
  exact Nat.two_pow_pos exponent

theorem of?_eq_some_iff {size align : Nat} {layout : Layout} :
    of? size align = some layout ↔ layout.size = size ∧ layout.align = align := by
  unfold of?
  constructor
  · intro found
    split at found
    · cases found
      exact ⟨rfl, rfl⟩
    · cases found
  · rintro ⟨rfl, rfl⟩
    rw [dif_pos ⟨layout.powerOfTwo, layout.bounded⟩]

end Layout

end ArenaLang
