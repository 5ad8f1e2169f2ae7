import ClassGraph.Pattern.Program
import ClassGraph.Pattern.Reader

namespace ClassGraph

/-- What patterns are compiled and searched with. A text that is no pattern is told by a message. -/
structure PatternEngine where
  Compiled : Type
  compile : (ignoresCase : Bool) → (text : String) → Except String Compiled
  search : Compiled → String → Bool

/-- The engine that the command uses. It has no classes of characters by Unicode property. -/
def Pattern.engine : PatternEngine where
  Compiled := Pattern
  compile ignoresCase text := (Pattern.read ignoresCase text).mapError Pattern.Fault.message
  search := Pattern.search

end ClassGraph
