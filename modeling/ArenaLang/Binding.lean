import ArenaLang.Value

namespace ArenaLang

structure Binding where
  name : String
  value : Value
deriving DecidableEq

end ArenaLang
