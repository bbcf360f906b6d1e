import ArenaLang.Number

/-!
# Shortest decimals

`Decimal.shortest` gives a positive binary number `mantissa * 2 ^ exponent` the fewest decimal
digits that read back as it. The reals that round to the number form an interval around it, which
holds its ends iff the mantissa is even. On the grids of one, two, ... seventeen digits the
number's two neighbours are tried: the first grid with a neighbour in the interval decides, the
nearer neighbour wins, and an exact tie goes up.
-/

namespace ArenaLang

structure Decimal where
  digits : Nat
  exponent : Int
deriving DecidableEq

namespace Decimal

def digitCount (n : Nat) : Nat := if n = 0 then 0 else (Nat.toDigits 10 n).length

def leading (d : Decimal) : Int := d.exponent + digitCount d.digits - 1

structure Interval where
  low : Nat
  middle : Nat
  high : Nat
  denominator : Nat
  closed : Bool

namespace Interval

/-- The interval of `mantissa * 2 ^ exponent`. `lowest` says that the next smaller number is only
half as far away as the next greater one. -/
def around (mantissa : Nat) (exponent : Int) (lowest : Bool) : Interval :=
  let scale := 1 <<< (exponent - 2).toNat
  { low := (4 * mantissa - if lowest then 1 else 2) * scale
    middle := 4 * mantissa * scale
    high := (4 * mantissa + 2) * scale
    denominator := 1 <<< (2 - exponent).toNat
    closed := mantissa % 2 = 0 }

def inUnits (interval : Interval) (exponent : Int) : Interval :=
  let up := Nat.pow 10 (-exponent).toNat
  { interval with
    low := interval.low * up
    middle := interval.middle * up
    high := interval.high * up
    denominator := interval.denominator * Nat.pow 10 exponent.toNat }

def holds (interval : Interval) (units : Nat) : Bool :=
  let point := units * interval.denominator
  if interval.closed then interval.low ≤ point && point ≤ interval.high
  else interval.low < point && point < interval.high

def units? (interval : Interval) : Option Nat :=
  let below := interval.middle / interval.denominator
  match interval.holds below, interval.holds (below + 1) with
  | true, true =>
      if (2 * below + 1) * interval.denominator ≤ 2 * interval.middle then some (below + 1)
      else some below
  | true, false => some below
  | false, true => some (below + 1)
  | false, false => none

def leading (interval : Interval) : Int :=
  if interval.denominator ≤ interval.middle then
    digitCount (interval.middle / interval.denominator) - 1
  else -digitCount ((interval.denominator - 1) / interval.middle)

end Interval

def normalizeUpTo : Nat → Decimal → Decimal
  | 0, d => d
  | fuel + 1, d =>
      if d.digits % 10 = 0 then normalizeUpTo fuel ⟨d.digits / 10, d.exponent + 1⟩ else d

def normalize (d : Decimal) : Decimal := normalizeUpTo (digitCount d.digits) d

def mostDigits : Nat := 17

def onGrid? (interval : Interval) (further : Nat) : Option Decimal :=
  let exponent := interval.leading - further
  (interval.inUnits exponent).units?.map fun units => ⟨units, exponent⟩

def shortest (mantissa : Nat) (exponent : Int) (lowest : Bool) : Decimal :=
  let interval := Interval.around mantissa exponent lowest
  match (List.range mostDigits).findSome? (onGrid? interval) with
  | some d => d.normalize
  | none => ⟨interval.middle / interval.denominator, 0⟩

end Decimal

/-- The shortest decimal of a finite number's magnitude; zero is `0 * 10 ^ 0`. -/
def Number.shortest (x : Number) (mantissa : Nat) (exponent : Int) : Decimal :=
  if mantissa = 0 then ⟨0, 0⟩
  else Decimal.shortest mantissa exponent (x.fraction = 0 && 1 < x.exponentField)

end ArenaLang
