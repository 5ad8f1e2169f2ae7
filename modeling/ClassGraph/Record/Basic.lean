import ClassGraph.File.Pathname
import ClassGraph.Record.Edge

namespace ClassGraph

structure ClassRecord where
  name : String
  edges : List Edge := []
deriving DecidableEq, Repr, Inhabited

structure FileRecord where
  path : Pathname
  classes : List ClassRecord := []
  /-- The imports of the file, also when they do not count as edges. -/
  imports : List Edge := []
  countsImports : Bool := false
deriving DecidableEq, Repr, Inhabited

namespace FileRecord

/-- The first class of a name. -/
def class? (file : FileRecord) (name : String) : Option ClassRecord :=
  file.classes.find? (·.name == name)

/-- Whether two records say the same of the same file; paths are compared by their components. -/
def same (a b : FileRecord) : Bool :=
  a.path.same b.path && a.classes == b.classes && a.imports == b.imports &&
    a.countsImports == b.countsImports

end FileRecord

end ClassGraph
