import ArenaLang.Native.Registry

namespace ArenaLang

open Script

def Native.print : Handler := fun args =>
  if args.values.length ≠ 1 then
    fail (args.name ++ " expects exactly 1 argument, got " ++ toString args.values.length)
  else
    match (args.value 0).text? with
    | .error mismatch => fail (args.name ++ " expects a string argument: " ++ mismatch.message)
    | .ok text =>
        writeLine text fun
          | .error reason => fail (args.name ++ " failed to write output: " ++ reason)
          | .ok () => .done .nothing

def Registry.standard : Registry := Registry.empty.register "print" Native.print

end ArenaLang
