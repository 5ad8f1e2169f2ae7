import ClassGraph.Group.Classification
import ClassGraph.Json.Printer
import ClassGraph.Map.Graph
import ClassGraph.Syntax.Source

namespace ClassGraph

structure Report where
  map : CodeMap := {}
  failures : List SourceError := []
deriving Inhabited

namespace Report

def edgeJson (e : Edge) : Json :=
  .object [("line", .nat e.line), ("target", .string e.target), ("type", .string e.kind.text)]

def classMember (c : ClassRecord) : String × Json :=
  (c.name, .array (c.edges.map edgeJson))

def failureJson (e : SourceError) : Json :=
  .object [("error", .string e.message), ("path", .string e.path.text)]

def toJson (r : Report) (classification : Option Classification) : Json :=
  .object ([("classes", .sortedObject (r.map.classes.map classMember)),
    ("failures", .array (r.failures.map failureJson)),
    ("files", .array (r.map.files.map fun file => .string file.path.text))] ++
    (classification.map fun c => ("groups", c.toJson)).toList)

end Report

end ClassGraph
