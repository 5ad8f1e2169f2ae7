import ClassGraph.Declaration.Basic

namespace ClassGraph

structure DeclarationIndex where
  entries : List (String × Declaration) := []
  scanned : List Pathname := []
deriving Inhabited

namespace DeclarationIndex

def get? (index : DeclarationIndex) (name : String) : Option Declaration :=
  index.entries.lookup name

def enter (index : DeclarationIndex) (d : Declaration) : DeclarationIndex :=
  { index with entries := (d.name, d) :: index.entries.filter (·.1 != d.name) }

def hasScanned (index : DeclarationIndex) (path : Pathname) : Bool :=
  index.scanned.any path.same

def size (index : DeclarationIndex) : Nat :=
  index.entries.length

/-- Enters all declarations of a source, in order, and notes that its file is scanned. -/
def scan (index : DeclarationIndex) (source : SourceFile) : DeclarationIndex :=
  let entered := source.declarations.foldl enter index
  { entered with scanned := source.path :: entered.scanned }

end DeclarationIndex

end ClassGraph
