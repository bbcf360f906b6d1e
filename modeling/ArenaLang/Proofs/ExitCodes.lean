import ArenaLang.Proofs.LifeCycle
import ArenaLang.Proofs.Reentrance
import Mathlib.Algebra.Order.Field.Power
import Mathlib.Data.Rat.Cast.Order
import Mathlib.Order.WithBot
import Mathlib.Tactic.NormNum
import Mathlib.Tactic.Positivity
import Mathlib.Tactic.Ring

namespace ArenaLang

abbrev Extended := WithBot (WithTop Rat)

def Extended.ofRat (q : Rat) : Extended := WithBot.some (WithTop.some q)

namespace Number

/-! ## What a pattern stands for -/

def signOf (negative : Bool) : Rat := if negative then -1 else 1

/-- The value of a pattern, by its sign bit, its eleven bits of exponent and its fraction. A NaN has
none. -/
def value? (x : Number) : Option Extended :=
  let negative : Bool := x.bits.toNat / 2 ^ 63 = 1
  let exponent : Nat := x.bits.toNat / 2 ^ 52 % 2 ^ 11
  let fraction : Nat := x.bits.toNat % 2 ^ 52
  if exponent = 2047 then
    if fraction = 0 then some (if negative then ⊥ else ⊤) else none
  else if exponent = 0 then some (.ofRat (signOf negative * 2 ^ (-1022 : Int) * (fraction / 2 ^ 52)))
  else some (.ofRat (signOf negative * 2 ^ ((exponent : Int) - 1023) * (1 + fraction / 2 ^ 52)))

def View.value? : View → Option Extended
  | .nan => none
  | .infinite negative => some (if negative then ⊥ else ⊤)
  | .finite negative mantissa exponent => some (.ofRat (signOf negative * (mantissa * 2 ^ exponent)))

theorem exponentField_eq (x : Number) : x.exponentField = x.bits.toNat / 2 ^ 52 % 2 ^ 11 := by
  rw [exponentField, Nat.shiftRight_eq_div_pow]
  rfl

theorem value?_eq_view (x : Number) : x.value? = x.view.value? := by
  have negative : x.negative = decide (x.bits.toNat / 2 ^ 63 = 1) := by
    rw [Number.negative, Nat.shiftRight_eq_div_pow]
  have fraction : x.fraction = x.bits.toNat % 2 ^ 52 := rfl
  have least : (2 : Rat) ^ (-1074 : Int) = 2 ^ (-1022 : Int) / 2 ^ 52 := by
    rw [eq_div_iff (by norm_num), ← zpow_natCast, ← zpow_add₀ (by norm_num)]
    rfl
  have shifted : (2 : Rat) ^ ((x.exponentField : Int) - 1075) = 2 ^ ((x.exponentField : Int) - 1023) / 2 ^ 52 := by
    rw [eq_div_iff (by norm_num), ← zpow_natCast, ← zpow_add₀ (by norm_num)]
    congr 1
    omega
  unfold value? view
  simp only [← negative, ← x.exponentField_eq, ← fraction]
  split
  · split <;> rfl
  · split
    · simp only [View.value?, least]
      congr 2
      ring
    · have hidden : (((1 <<< 52) + x.fraction : Nat) : Rat) = 2 ^ 52 + x.fraction := by
        rw [Nat.shiftLeft_eq]
        push_cast
        ring
      simp only [View.value?, shifted, hidden]
      congr 2
      ring

/-! ## Truncation -/

/-- The integer of the greatest magnitude that is not above that of a rational, with its sign. -/
structure Truncates (q : Rat) (n : Int) : Prop where
  magnitude : IsGreatest {k : Nat | (k : Rat) ≤ |q|} n.natAbs
  nonneg : 0 ≤ q → 0 ≤ n
  nonpos : q ≤ 0 → n ≤ 0

theorem isGreatest_wholePart (mantissa : Nat) (exponent : Int) :
    IsGreatest {k : Nat | (k : Rat) ≤ mantissa * 2 ^ exponent} (wholePart mantissa exponent) := by
  cases exponent with
  | ofNat exponent =>
      have whole : (mantissa : Rat) * 2 ^ (Int.ofNat exponent) = (wholePart mantissa (.ofNat exponent) : Nat) := by
        rw [wholePart, Nat.shiftLeft_eq]
        push_cast
        rfl
      rw [whole]
      exact ⟨le_refl (α := Rat) _, fun k (below : (k : Rat) ≤ _) => Nat.cast_le.mp below⟩
  | negSucc exponent =>
      have parts : (mantissa : Rat) * 2 ^ (Int.negSucc exponent) = mantissa / (2 ^ (exponent + 1) : Nat) := by
        rw [zpow_negSucc, div_eq_mul_inv]
        push_cast
        rfl
      have positive : (0 : Rat) < (2 ^ (exponent + 1) : Nat) := by positivity
      -- Below one the shift drops bits, and an integer lies below the rest just if it does below the quotient.
      have below (k : Nat) :
          (k : Rat) ≤ mantissa * 2 ^ (Int.negSucc exponent) ↔ k ≤ mantissa / 2 ^ (exponent + 1) := by
        rw [parts, le_div_iff₀ positive, Nat.le_div_iff_mul_le (Nat.two_pow_pos _), ← Nat.cast_mul, Nat.cast_le]
      rw [wholePart, Nat.shiftRight_eq_div_pow]
      exact ⟨(below _).mpr (le_refl _), fun k member => (below k).mp member⟩

namespace Truncates

variable {q r : Rat} {n m : Int}

theorem natAbs_le (truncates : Truncates q n) (others : Truncates r m) (le : |q| ≤ |r|) : n.natAbs ≤ m.natAbs :=
  others.magnitude.2 (truncates.magnitude.1.trans le)

theorem mono (truncates : Truncates q n) (others : Truncates r m) (le : q ≤ r) : n ≤ m := by
  rcases le_total 0 q with above | below
  · have magnitudes := truncates.natAbs_le others (abs_le_abs_of_nonneg above le)
    have left := truncates.nonneg above
    have right := others.nonneg (above.trans le)
    omega
  · have left := truncates.nonpos below
    rcases le_total 0 r with above | low
    · have right := others.nonneg above
      omega
    · have magnitudes := others.natAbs_le truncates (abs_le_abs_of_nonpos low le)
      have right := others.nonpos low
      omega

theorem eq_zero (truncates : Truncates q n) (small : |q| < 1) : n = 0 := by
  have below : (n.natAbs : Rat) < (1 : Nat) := lt_of_le_of_lt truncates.magnitude.1 (by simpa using small)
  have magnitude := Nat.cast_lt.mp below
  omega

theorem wholePart (negative : Bool) (mantissa : Nat) (exponent : Int) :
    Truncates (signOf negative * (mantissa * 2 ^ exponent))
      (if negative then -(Number.wholePart mantissa exponent : Int) else Number.wholePart mantissa exponent) := by
  have greatest := isGreatest_wholePart mantissa exponent
  have nonneg : (0 : Rat) ≤ mantissa * 2 ^ exponent := by positivity
  cases negative with
  | false =>
      simp only [signOf, one_mul, Bool.false_eq_true, if_false]
      refine ⟨?_, fun _ => Int.natCast_nonneg _, fun nonpos => ?_⟩
      · rw [abs_of_nonneg nonneg, Int.natAbs_natCast]
        exact greatest
      · have zero : (Number.wholePart mantissa exponent : Rat) ≤ (0 : Nat) :=
          greatest.1.trans (by simpa using nonpos)
        exact Int.ofNat_le.mpr (Nat.cast_le.mp zero)
  | true =>
      simp only [signOf, neg_mul, one_mul, if_true]
      refine ⟨?_, fun nonpos => ?_, fun _ => by omega⟩
      · rw [abs_neg, abs_of_nonneg nonneg, Int.natAbs_neg, Int.natAbs_natCast]
        exact greatest
      · have zero : (Number.wholePart mantissa exponent : Rat) ≤ (0 : Nat) :=
          greatest.1.trans (by simpa using neg_nonneg.mp nonpos)
        have := Nat.cast_le.mp zero
        omega

end Truncates

/-! ## The code of a number -/

inductive Exits : Option Extended → Int → Prop
  | nan : Exits none 0
  | below : Exits (some ⊥) (-2 ^ 31)
  | above : Exits (some ⊤) (2 ^ 31 - 1)
  | finite {q : Rat} {n : Int} (truncates : Truncates q n) :
      Exits (some (.ofRat q)) (max (-2 ^ 31) (min (2 ^ 31 - 1) n))

theorem exits (x : Number) : Exits x.value? x.toExitCode := by
  rw [value?_eq_view, toExitCode]
  cases x.view with
  | nan => exact .nan
  | infinite negative =>
      cases negative with
      | false => exact .above
      | true => exact .below
  | finite negative mantissa exponent =>
      have exits := Exits.finite (Truncates.wholePart negative mantissa exponent)
      cases negative with
      | false =>
          have same : max (-2 ^ 31) (min (2 ^ 31 - 1) (wholePart mantissa exponent : Int)) =
              min greatestExitCode (wholePart mantissa exponent) := by
            unfold greatestExitCode
            omega
          rw [if_neg Bool.false_ne_true, same] at exits
          exact exits
      | true =>
          have same : max (-2 ^ 31) (min (2 ^ 31 - 1) (-(wholePart mantissa exponent : Int))) =
              max leastExitCode (-(wholePart mantissa exponent : Int)) := by
            unfold leastExitCode
            omega
          rw [if_pos rfl, same] at exits
          exact exits

namespace Exits

variable {v w : Extended} {c d : Int}

theorem bounded {v? : Option Extended} (exits : Exits v? c) : -2 ^ 31 ≤ c ∧ c ≤ 2 ^ 31 - 1 := by
  cases exits <;> omega

theorem mono (exits : Exits (some v) c) (others : Exits (some w) d) (le : v ≤ w) : c ≤ d := by
  have least := others.bounded.1
  have most := exits.bounded.2
  cases exits with
  | below => exact least
  | above =>
      obtain rfl : w = ⊤ := top_le_iff.mp le
      cases others
      exact le_refl _
  | @finite q n truncates =>
      cases others with
      | below => cases le_bot_iff.mp le
      | above => exact most
      | @finite r m larger =>
          have order := truncates.mono larger (WithTop.coe_le_coe.mp (WithBot.coe_le_coe.mp le))
          omega

theorem eq_zero {q : Rat} (exits : Exits (some (.ofRat q)) c) (small : |q| < 1) : c = 0 := by
  cases exits with
  | finite truncates =>
      rw [truncates.eq_zero small]
      decide

end Exits

theorem toExitCode_of_subnormal {x : Number} (subnormal : x.bits.toNat / 2 ^ 52 % 2 ^ 11 = 0) : x.toExitCode = 0 := by
  rw [← exponentField_eq] at subnormal
  have special : ¬x.exponentField = 2047 := by omega
  have bound : x.fraction < 2 ^ 52 := Nat.mod_lt _ (Nat.two_pow_pos 52)
  have shifted : wholePart x.fraction (-1074) = x.fraction >>> (52 + 1022) := rfl
  have none : wholePart x.fraction (-1074) = 0 := by
    rw [shifted, Nat.shiftRight_add, Nat.shiftRight_eq_div_pow _ 52, Nat.div_eq_of_lt bound, Nat.zero_shiftRight]
  rw [toExitCode, view, if_neg special, if_pos subnormal]
  cases x.negative <;> simp only [none] <;> decide

end Number

/-- A run whose main call comes to a number, however deep it nests calls, gives as exit code what the
number stands for, truncated toward zero and clamped; it is zero for a NaN and for all below one in
magnitude, and does not fall where the number rises. -/
theorem exit_code_is_clamped_truncation {σ : Type} [Writer σ] {memory : Memory} {output : σ} {sink : Sink}
    {natives : Registry} {program : Program} {created current : Interpreter σ}
    {results : List (Except RunError Int)} {depth : Nat} {x : Number} {machine : Machine σ} (sound : memory.Sound)
    (made : Interpreter.create memory output sink natives program = .ok created)
    (history : created.History results current)
    (called : current.code.callEntryPoint (current.code.enter depth) current.machine =
      (.ok (.ok (.number x)), machine)) :
    current.run.1 = .ok (.ok x.toExitCode) ∧ current.run.2.exitCode = some x.toExitCode ∧
      Number.Exits x.value? x.toExitCode ∧
      (∀ q : Rat, x.value? = some (.ofRat q) → |q| < 1 → x.toExitCode = 0) ∧
      (x.bits.toNat / 2 ^ 52 % 2 ^ 11 = 0 → x.toExitCode = 0) ∧
      ∀ (y : Number) (v w : Extended), x.value? = some v → y.value? = some w → v ≤ w →
        x.toExitCode ≤ y.toExitCode := by
  obtain ⟨table, stands, holds⟩ := history.serves (Interpreter.create_serves sound made)
  have enough : (program.definitions natives).enterable.length ≤ current.code.functions.length := by
    rw [stands.functions.length_eq]
    exact Definitions.length_enterable_le _
  have atLimit := Code.callEntryPoint_eq stands holds (congrArg Prod.fst called) enough
  have ran : current.run = (.ok (.ok x.toExitCode), ⟨current.code, machine.concluded (.ok x.toExitCode),
      some x.toExitCode⟩) := by
    rw [Interpreter.run_eq, atLimit, called]
    rfl
  refine ⟨by rw [ran], by rw [ran], x.exits, ?_, Number.toExitCode_of_subnormal, ?_⟩
  · intro q stands small
    exact Number.Exits.eq_zero (stands ▸ x.exits) small
  · intro y v w left right le
    exact Number.Exits.mono (left ▸ x.exits) (right ▸ y.exits) le

/-- A half below the least exit code. -/
theorem exit_code_is_clamped_truncation_edge :
    let x : Number := ⟨0xC1E0000000100000⟩
    let program : Program := [.declare "main" [] [.ret (some (.number x))]]
    ∃ (created : Interpreter OutputStream) (machine : Machine OutputStream), Memory.small.Sound ∧
      Interpreter.create .small OutputStream.unbounded .collecting .standard program = .ok created ∧
      created.History [] created ∧
      created.code.callEntryPoint (created.code.enter 1) created.machine = (.ok (.ok (.number x)), machine) ∧
      x.value? = some (.ofRat (-2147483648.5)) ∧
      created.run.1 = .ok (.ok (-2147483648)) ∧ created.run.2.exitCode = some (-2147483648) := by
  intro x program
  have works : (Interpreter.create .small OutputStream.unbounded .collecting .standard program).toOption.any
      (fun created => (created.code.callEntryPoint (created.code.enter 1) created.machine).1 =
        .ok (.ok (.number x))) = true := by
    decide +kernel
  have code : x.toExitCode = -2147483648 := by decide
  have value : x.value? = some (.ofRat (-2147483648.5)) := by
    have fields : x.bits.toNat / 2 ^ 63 = 1 ∧ x.bits.toNat / 2 ^ 52 % 2 ^ 11 = 1054 ∧
        x.bits.toNat % 2 ^ 52 = 2 ^ 20 := by
      decide
    simp only [Number.value?, fields]
    norm_num [Number.signOf]
  clear_value program
  have sound := (Memory.create_holds System.paged_sound Memory.small_created).sound
  obtain ⟨created, made, answered⟩ := exists_ok_of_any works
  have called : created.code.callEntryPoint (created.code.enter 1) created.machine = (.ok (.ok (.number x)), _) :=
    Prod.ext answered rfl
  obtain ⟨ran, kept, _⟩ := exit_code_is_clamped_truncation sound made .created called
  exact ⟨created, _, sound, made, .created, called, value, code ▸ ran, code ▸ kept⟩

end ArenaLang
