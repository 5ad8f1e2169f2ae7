import ClassGraph.Syntax.Resolved
import ClassGraph.Syntax.Source

namespace ClassGraph

structure Declaration where
  name : String
  form : ClassForm
  line : Nat
  parents : List String
  interfaces : List String
  traits : List String
  methods : List String
  start : Nat
  stop : Nat
  source : SourceFile
deriving Inhabited

namespace ClassForm

def text : ClassForm → String
  | plain => "Class"
  | interface => "Interface"
  | trait => "Trait"
  | enumeration => "Enum"

end ClassForm

namespace Declaration

def path (d : Declaration) : Pathname :=
  d.source.path

/-- The classes that the names listed in a clause refer to. -/
def namesListed (clause : ResolvedTree) : List String :=
  (clause.children.filter (·.value.isListedName)).flatMap (·.value.names)

/-- The classes listed in the first clause of a form among the children. -/
def namesInClause (form : ClauseForm) (children : List ResolvedTree) : List String :=
  ((children.find? (·.value.kind == .clause form)).map namesListed).getD []

/-- The members in the body of a class. -/
def members (children : List ResolvedTree) : List ResolvedTree :=
  ((children.find? (·.value.fills .body)).map (·.children.filter (·.value.named))).getD []

def traitsOf (member : ResolvedTree) : List String :=
  if member.value.kind = .clause .traits then namesListed member else []

def methodOf? (member : ResolvedTree) : Option String :=
  if member.value.kind = .method then
    (member.children.find? (·.value.fills .name)).map (·.value.text)
  else none

/-- The declaration that a node makes, if it makes one. -/
def ofNode? (source : SourceFile) (n : ResolvedNode) (children : List ResolvedTree) :
    Option Declaration :=
  match n.kind, n.declares with
  | .declaration form, some name => some
    { name, form
      line := n.line
      parents := namesInClause .parents children
      interfaces := namesInClause .interfaces children
      traits := (members children).flatMap traitsOf
      methods := (members children).filterMap methodOf?
      start := n.start
      stop := n.stop
      source }
  | _, _ => none

end Declaration

namespace Tree

mutual

/-- The declarations of a tree in preorder. -/
def declarations (source : SourceFile) : ResolvedTree → List Declaration
  | node n children =>
    (Declaration.ofNode? source n children).toList ++ declarationsAll source children

def declarationsAll (source : SourceFile) : List ResolvedTree → List Declaration
  | [] => []
  | t :: ts => declarations source t ++ declarationsAll source ts

end

mutual

/-- The nodes on the way from the root of a tree down to its smallest node that spans the bytes
from `start` to `stop`. -/
def spanning (start stop : Nat) : SyntaxTree → List Node
  | node n children => n :: spanningAmong start stop children

def spanningAmong (start stop : Nat) : List SyntaxTree → List Node
  | [] => []
  | t :: ts =>
    if t.value.stop < stop || t.value.stop ≤ start then spanningAmong start stop ts
    else if start < t.value.start then []
    else spanning start stop t

end

end Tree

/-- All declarations of a parsed source, in its order. -/
def SourceFile.declarations (source : SourceFile) : List Declaration :=
  source.tree.resolve.declarations source

/-- How many nodes of a parsed source declare a class. -/
def SourceFile.declarationCount (source : SourceFile) : Nat :=
  (source.tree.resolve.preorder.filterMap (·.declares)).length

namespace Declaration

/-- The first node of the declared form on the way up, as long as the nodes above the first span
the declaration's bytes. -/
def climb (d : Declaration) : List Node → Option Node
  | [] => none
  | n :: above =>
    if n.kind = .declaration d.form then some n
    else match above.head? with
      | none => none
      | some parent =>
        if parent.start = d.start ∧ parent.stop = d.stop then climb d above else none

/-- The node of a declaration in its source. -/
def node? (d : Declaration) : Option Node :=
  d.climb (d.source.tree.spanning d.start d.stop).reverse

end Declaration

end ClassGraph
