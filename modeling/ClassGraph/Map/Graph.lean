import ClassGraph.Map.Basic

namespace ClassGraph

structure Link where
  source : Nat
  target : Nat
  kind : EdgeKind
deriving DecidableEq, Repr

structure Graph where
  nodes : List String := []
  links : List Link := []
deriving DecidableEq, Repr, Inhabited

namespace Graph

/-- Adds a node behind the others. -/
def addNode (g : Graph) (name : String) : Graph :=
  { g with nodes := g.nodes ++ [name] }

/-- Adds a link behind the others. -/
def addLink (g : Graph) (l : Link) : Graph :=
  { g with links := g.links ++ [l] }

/-- A character inside a label. -/
def labelChar (c : Char) : String :=
  if c = '"' then "\\\"" else if c = '\\' then "\\\\" else if c = '\n' then "\\l" else c.toString

def label (s : String) : String :=
  " [ label = \"" ++ String.join (s.toList.map labelChar) ++ "\" ]\n"

def nodeLine (place : Nat) (name : String) : String :=
  "    " ++ toString place ++ label name

def linkLine (l : Link) : String :=
  "    " ++ toString l.source ++ " -> " ++ toString l.target ++ label l.kind.text

/-- The graph in the DOT language, nodes before edges. -/
def dot (g : Graph) : String :=
  "digraph \x7b\n" ++ String.join ((g.nodes.zipIdx.map fun (name, place) => nodeLine place name) ++
    g.links.map linkLine) ++ "\x7d\n"

end Graph

/-- A graph that is being built, with the numbers of its nodes. -/
structure GraphBuilder where
  graph : Graph := {}
  numbers : Std.HashMap String Nat := {}

namespace GraphBuilder

/-- The number of a name, which becomes a node if it is none yet. -/
def number (b : GraphBuilder) (name : String) : Nat × GraphBuilder :=
  match b.numbers[name]? with
  | some number => (number, b)
  | none =>
    let number := b.graph.nodes.length
    (number, { graph := b.graph.addNode name, numbers := b.numbers.insert name number })

/-- Adds an edge from the node with a number. -/
def addEdge (source : Nat) (b : GraphBuilder) (e : Edge) : GraphBuilder :=
  let (target, b) := b.number e.target
  { b with graph := b.graph.addLink ⟨source, target, e.kind⟩ }

def addClass (b : GraphBuilder) (c : ClassRecord) : GraphBuilder :=
  let (source, b) := b.number c.name
  c.edges.foldl (addEdge source) b

end GraphBuilder

def CodeMap.graph (m : CodeMap) : Graph :=
  (m.classes.foldl GraphBuilder.addClass {}).graph

end ClassGraph
