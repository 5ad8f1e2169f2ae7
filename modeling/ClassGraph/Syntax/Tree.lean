import ClassGraph.Syntax.Kind

namespace ClassGraph

/-- Fields that children fill in their parents. -/
inductive Field where
  | name
  | body
  | importType
  | shortName
  | scope
  | right
  | operator
  | other (spelling : String)
deriving DecidableEq, Repr

namespace Field

def spellings : List (String × Field) :=
  [("name", name), ("body", body), ("type", importType), ("alias", shortName), ("scope", scope),
   ("right", right), ("operator", operator)]

def ofSpelling (spelling : String) : Field :=
  (spellings.lookup spelling).getD (other spelling)

end Field

structure Node where
  kind : Kind
  field : Option Field := none
  /-- Whether the node stands for a rule of the grammar rather than for a token. -/
  named : Bool := true
  /-- Whether the node is an error, or is missing from the source. -/
  faulty : Bool := false
  /-- Whether the node or something below it is faulty. -/
  hasFault : Bool := false
  start : Nat := 0
  stop : Nat := 0
  row : Nat := 0
  text : String := ""
deriving DecidableEq, Repr, Inhabited

namespace Node

/-- Lines count from one. -/
def line (n : Node) : Nat :=
  n.row + 1

def fills (n : Node) (field : Field) : Bool :=
  n.field == some field

def isName (n : Node) : Bool :=
  match n.kind with
  | .name _ => true
  | _ => false

/-- A child that a clause lists: a named node that is a name. -/
def isListedName (n : Node) : Bool :=
  n.named && n.isName

end Node

inductive Tree (ν : Type) where
  | node (value : ν) (children : List (Tree ν))
deriving Inhabited

namespace Tree

variable {ν μ : Type}

def value : Tree ν → ν
  | node value _ => value

def children : Tree ν → List (Tree ν)
  | node _ children => children

mutual

/-- The values of a tree in preorder. -/
def preorder : Tree ν → List ν
  | node value children => value :: preorderAll children

/-- The values of several trees in preorder. -/
def preorderAll : List (Tree ν) → List ν
  | [] => []
  | t :: ts => preorder t ++ preorderAll ts

end

/-- Puts a value in front of the trees that follow it in preorder, taking those deeper than itself
as its children. -/
def graft (row : Nat × ν) (following : List (Nat × Tree ν)) : List (Nat × Tree ν) :=
  (row.1, node row.2 ((following.takeWhile (row.1 < ·.1)).map (·.2))) ::
    following.dropWhile (row.1 < ·.1)

/-- The tree whose values are listed in preorder, each after its depth. -/
def ofPreorder (rows : List (Nat × ν)) : Option (Tree ν) :=
  (rows.foldr graft []).head?.map (·.2)

end Tree

/-- A tree as the grammar gives it. -/
abbrev SyntaxTree := Tree Node

end ClassGraph
