namespace ArenaLang.Word

def limit : Nat := 1 <<< 64

def greatest : Nat := limit - 1

def add? (x y : Nat) : Option Nat := if x + y < limit then some (x + y) else none

def mul? (x y : Nat) : Option Nat := if x * y < limit then some (x * y) else none

def mulClamped (x y : Nat) : Nat := min (x * y) greatest

def complement (mask : Nat) : Nat := greatest ^^^ mask

def roundUp? (x align : Nat) : Option Nat :=
  (add? x (align - 1)).map fun raised => raised &&& complement (align - 1)

end ArenaLang.Word
