import ArenaLang.Native.Print

namespace ArenaLang.Native

open Script

def echo : Handler := fun args =>
  match args.value 0 with
  | .text text => writeLine text fun _ => .done (args.value 0)
  | value => .done value

def raw : Handler := fun args =>
  match (args.value 0).text? with
  | .error mismatch => fail (args.name ++ ": " ++ mismatch.message)
  | .ok text =>
      writeText text fun
        | .error reason => fail (args.name ++ ": " ++ reason)
        | .ok () => .done .nothing

def display : Handler := fun args =>
  writeText (" ".intercalate (args.values.map Value.display) ++ "\n") fun
    | .error reason => fail (args.name ++ ": " ++ reason)
    | .ok () => .done .nothing

def answer : Handler := fun _ => .done (.number (.ofNat 42))

def nothing : Handler := fun _ => .done .nothing

def first : Handler := fun args => .done (args.value 0)

def last : Handler := fun args => .done (args.values.getLastD .nothing)

def count : Handler := fun args => .done (.number (.ofNat args.values.length))

def kind : Handler := fun args => .done (.text (args.value 0).kind.name)

def greeting : Handler := fun args =>
  if args.values.isEmpty then .done (.text "hi from the host")
  else fail (args.name ++ " takes no arguments")

def twice : Handler := fun args =>
  match (args.value 0).number? with
  | .error mismatch => fail (args.name ++ " expects a number: " ++ mismatch.message)
  | .ok n => .done (.number n.double)

def addFrom (name : String) : Nat → Number → List Value → Script
  | _, sum, [] => .done (.number sum)
  | index, sum, value :: rest =>
      match value.number? with
      | .error mismatch =>
          fail (name ++ " argument " ++ toString index ++ ": " ++ mismatch.message)
      | .ok n => addFrom name (index + 1) (sum.add n) rest

def add : Handler := fun args => addFrom args.name 0 .zero args.values

def relay (severity : Severity) : Handler := fun args =>
  let message :=
    match (args.value 0).text? with
    | .ok text => text
    | .error mismatch => mismatch.message
  .report ⟨severity, message⟩ (.done (args.value 0))

def samples : List Native :=
  [⟨"print", print⟩, ⟨"echo", echo⟩, ⟨"raw", raw⟩, ⟨"show", display⟩, ⟨"answer", answer⟩,
    ⟨"nothing", nothing⟩, ⟨"first", first⟩, ⟨"last", last⟩, ⟨"count", count⟩, ⟨"kind", kind⟩,
    ⟨"greeting", greeting⟩, ⟨"twice", twice⟩, ⟨"add", add⟩, ⟨"warn", relay .warning⟩,
    ⟨"info", relay .info⟩]

def handler? (name : String) : Option Handler :=
  (samples.find? (·.name == name)).map Native.handler

end ArenaLang.Native
