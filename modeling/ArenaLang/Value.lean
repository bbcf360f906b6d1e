import ArenaLang.Number.Text
import ArenaLang.Text.Quoted

namespace ArenaLang

inductive Value where
  | nothing
  | number (n : Number)
  | text (s : String)
deriving DecidableEq, Inhabited

inductive Kind where
  | nothing
  | number
  | text
deriving DecidableEq

def Kind.name : Kind → String
  | .nothing => "nothing"
  | .number => "number"
  | .text => "string"

structure KindMismatch where
  expected : Kind
  found : Kind
deriving DecidableEq

def KindMismatch.message (e : KindMismatch) : String :=
  "expected " ++ e.expected.name ++ ", found " ++ e.found.name

namespace Value

def kind : Value → Kind
  | .nothing => .nothing
  | .number _ => .number
  | .text _ => .text

def isNothing : Value → Bool
  | .nothing => true
  | _ => false

def number? : Value → Except KindMismatch Number
  | .number n => .ok n
  | v => .error ⟨.number, v.kind⟩

def text? : Value → Except KindMismatch String
  | .text s => .ok s
  | v => .error ⟨.text, v.kind⟩

/-- Equality with numbers compared numerically, so a value that is a NaN differs from itself. -/
def same : Value → Value → Bool
  | .nothing, .nothing => true
  | .number x, .number y => x.same y
  | .text s, .text t => s == t
  | _, _ => false

def display : Value → String
  | .nothing => "nothing"
  | .number n => n.text .plain
  | .text s => Text.quoted s

def inspect : Value → String
  | .nothing => "Nothing"
  | .number n => "Number(" ++ n.text .exact ++ ")"
  | .text s => "String(" ++ Text.quoted s ++ ")"

end Value

end ArenaLang
