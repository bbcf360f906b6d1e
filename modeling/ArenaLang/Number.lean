/-!
# Numbers

A number is an IEEE-754 binary64 pattern. `Number.view` says what a pattern stands for: not a
number, an infinity, or plus or minus `mantissa * 2 ^ exponent`. Comparison and the exit code are
computed from the pattern in exact arithmetic; addition and doubling round as the hardware does.
-/

namespace ArenaLang

structure Number where
  bits : UInt64
deriving DecidableEq, Inhabited

namespace Number

inductive View where
  | nan
  | infinite (negative : Bool)
  | finite (negative : Bool) (mantissa : Nat) (exponent : Int)
deriving DecidableEq

def negative (x : Number) : Bool := x.bits.toNat >>> 63 = 1

def exponentField (x : Number) : Nat := (x.bits.toNat >>> 52) % 2048

def fraction (x : Number) : Nat := x.bits.toNat % (1 <<< 52)

/-- The hidden leading bit is there unless the exponent field is zero; the least exponent is
shared by the numbers with and without it. -/
def view (x : Number) : View :=
  if x.exponentField = 2047 then
    if x.fraction = 0 then .infinite x.negative else .nan
  else if x.exponentField = 0 then .finite x.negative x.fraction (-1074)
  else .finite x.negative ((1 <<< 52) + x.fraction) (x.exponentField - 1075)

def isNaN (x : Number) : Bool := x.exponentField = 2047 && x.fraction ≠ 0

def isZero (x : Number) : Bool := x.bits.toNat % (1 <<< 63) = 0

def same (x y : Number) : Bool :=
  !x.isNaN && !y.isNaN && (x.bits == y.bits || x.isZero && y.isZero)

def zero : Number := ⟨0⟩

def ofNat (n : Nat) : Number := ⟨(Float.ofNat n).toBits⟩

def neg (x : Number) : Number := ⟨x.bits ^^^ 0x8000000000000000⟩

def add (x y : Number) : Number := ⟨(Float.ofBits x.bits + Float.ofBits y.bits).toBits⟩

def double (x : Number) : Number := ⟨(Float.ofBits x.bits * 2).toBits⟩

def wholePart (mantissa : Nat) : Int → Nat
  | .ofNat exponent => mantissa <<< exponent
  | .negSucc exponent => mantissa >>> (exponent + 1)

def leastExitCode : Int := -0x80000000

def greatestExitCode : Int := 0x7fffffff

/-- The exit code of a number: truncated toward zero and clamped to 32 signed bits; a NaN gives
zero. -/
def toExitCode (x : Number) : Int :=
  match x.view with
  | .nan => 0
  | .infinite true => leastExitCode
  | .infinite false => greatestExitCode
  | .finite true mantissa exponent => max leastExitCode (-(wholePart mantissa exponent : Int))
  | .finite false mantissa exponent => min greatestExitCode (wholePart mantissa exponent)

end Number

end ArenaLang
