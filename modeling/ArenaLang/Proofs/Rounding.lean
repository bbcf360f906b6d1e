import ArenaLang.Layout
import Mathlib.Algebra.Ring.Nat

namespace ArenaLang.Word

theorem add?_eq_some_iff {x y sum : Nat} : add? x y = some sum ↔ x + y < limit ∧ x + y = sum := by
  unfold add?
  split
  · rename_i word
    simp only [Option.some.injEq, word, true_and]
  · rename_i overflow
    simp only [reduceCtorEq, overflow, false_and]

theorem add?_eq_none_iff {x y : Nat} : add? x y = none ↔ limit ≤ x + y := by
  rw [add?, ite_eq_right_iff]
  simp only [reduceCtorEq, imp_false, Nat.not_lt]

def roundUp (x align : Nat) : Nat := (x + (align - 1)) / align * align

theorem le_roundUp (x : Nat) {align : Nat} (positive : 0 < align) : x ≤ roundUp x align := by
  have parts := Nat.div_add_mod (x + (align - 1)) align
  have below := Nat.mod_lt (x + (align - 1)) positive
  rw [Nat.mul_comm] at parts
  unfold roundUp
  omega

theorem dvd_roundUp (x align : Nat) : align ∣ roundUp x align := Nat.dvd_mul_left align _

theorem roundUp_le {x align y : Nat} (positive : 0 < align) (multiple : align ∣ y) (above : x ≤ y) :
    roundUp x align ≤ y := by
  obtain ⟨q, rfl⟩ := multiple
  have quotient : (x + (align - 1)) / align < q + 1 := by
    rw [Nat.div_lt_iff_lt_mul positive, Nat.add_mul, Nat.mul_comm q]
    omega
  unfold roundUp
  rw [Nat.mul_comm]
  exact Nat.mul_le_mul_left align (Nat.lt_succ_iff.mp quotient)

theorem roundUp_lt (x : Nat) {align : Nat} (positive : 0 < align) : roundUp x align < x + align := by
  have raised := Nat.div_mul_le_self (x + (align - 1)) align
  unfold roundUp
  omega

theorem testBit_complement (k i : Nat) (small : k ≤ 64) :
    (complement (2 ^ k - 1)).testBit i = (decide (k ≤ i) && decide (i < 64)) := by
  have whole : greatest = 2 ^ 64 - 1 := rfl
  rw [complement, Nat.testBit_xor, whole, Nat.testBit_two_pow_sub_one, Nat.testBit_two_pow_sub_one]
  by_cases low : i < k
  · simp [low, show i < 64 by omega]
  · simp [low, show k ≤ i by omega]

theorem land_complement {x k : Nat} (small : k ≤ 64) (word : x < limit) :
    x &&& complement (2 ^ k - 1) = x / 2 ^ k * 2 ^ k := by
  apply Nat.eq_of_testBit_eq
  intro i
  rw [Nat.testBit_and, testBit_complement k i small, Nat.testBit_mul_two_pow, Nat.testBit_div_two_pow]
  by_cases low : k ≤ i
  · have position : i - k + k = i := by omega
    by_cases high : i < 64
    · simp [low, high, position]
    · have above : 2 ^ 64 ≤ 2 ^ i := Nat.pow_le_pow_right Nat.two_pos (by omega)
      have clear : x.testBit i = false := Nat.testBit_lt_two_pow (Nat.lt_of_lt_of_le word above)
      simp [low, position, clear]
  · simp [low]

theorem raised_land_complement {x align : Nat} (power : align.isPowerOfTwo) (small : align ≤ limit)
    (word : x + (align - 1) < limit) : (x + (align - 1)) &&& complement (align - 1) = roundUp x align := by
  obtain ⟨k, rfl⟩ := power
  have exponent : k ≤ 64 := (Nat.pow_le_pow_iff_right (by decide)).mp small
  rw [land_complement exponent word, roundUp]

theorem roundUp?_eq {x align : Nat} (power : align.isPowerOfTwo) (small : align ≤ limit) :
    roundUp? x align =
      if x + (align - 1) < limit then some (roundUp x align) else none := by
  unfold roundUp? add?
  split
  · rename_i word
    rw [Option.map_some, raised_land_complement power small word]
  · rfl

theorem limit_le_roundUp {x align : Nat} (power : align.isPowerOfTwo) (small : align ≤ limit)
    (overflow : limit ≤ x + (align - 1)) : limit ≤ roundUp x align := by
  obtain ⟨k, rfl⟩ := power
  have exponent : k ≤ 64 := (Nat.pow_le_pow_iff_right (by decide)).mp small
  have whole : limit = 2 ^ (64 - k) * 2 ^ k := by
    rw [← Nat.pow_add, Nat.sub_add_cancel exponent]
    rfl
  rw [whole] at overflow ⊢
  exact Nat.mul_le_mul_right _ ((Nat.le_div_iff_mul_le (Nat.two_pow_pos k)).mpr overflow)

end ArenaLang.Word
