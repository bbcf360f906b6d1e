import ArenaLang.Number.Shortest

namespace ArenaLang.Number

structure Style where
  /-- Whether a number whose leading digit has this exponent is written without an exponent. -/
  positional : Int → Bool
  /-- Whether a whole number is written with a point and a zero. -/
  pointed : Bool

def Style.plain : Style := ⟨fun _ => true, false⟩

/-- An exponent from `10 ^ 16` on and below `10 ^ (-4)`; positional numbers always have a point. -/
def Style.exact : Style := ⟨fun leading => -4 ≤ leading && leading < 16, true⟩

def zeros (n : Nat) : String := String.ofList (List.replicate n '0')

def digitsText (d : Decimal) : String := toString d.digits

def pointAfter (n : Nat) (text : String) : String :=
  String.ofList (text.toList.take n) ++ "." ++ String.ofList (text.toList.drop n)

def positionalText (pointed : Bool) (d : Decimal) : String :=
  let digits := digitsText d
  match d.exponent with
  | .ofNat exponent => digits ++ zeros exponent ++ if pointed then ".0" else ""
  | .negSucc behind =>
      if behind + 1 < digits.length then pointAfter (digits.length - (behind + 1)) digits
      else "0." ++ zeros (behind + 1 - digits.length) ++ digits

def exponentText (d : Decimal) : String :=
  let digits := digitsText d
  (if digits.length = 1 then digits else pointAfter 1 digits) ++ "e" ++ toString d.leading

def decimalText (style : Style) (d : Decimal) : String :=
  if d.digits = 0 || style.positional d.leading then positionalText style.pointed d
  else exponentText d

def signText (negative : Bool) : String := if negative then "-" else ""

def text (style : Style) (x : Number) : String :=
  match x.view with
  | .nan => "NaN"
  | .infinite negative => signText negative ++ "inf"
  | .finite negative mantissa exponent =>
      signText negative ++ decimalText style (x.shortest mantissa exponent)

end ArenaLang.Number
