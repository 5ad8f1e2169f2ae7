import ClassGraph.Record.Recorder
import ClassGraph.Syntax.Resolved

namespace ClassGraph

inductive Rule where
  | inheritance
  | traitUse
  | typeHint
  | instantiation
  | staticAccess
  | classTest
  | importStatement
deriving DecidableEq, Repr, Inhabited

/-- An edge to each class that a node refers to, on the node's line. -/
def edgesTo (kind : EdgeKind) (t : ResolvedTree) : List Event :=
  t.value.names.map fun target => .edge ⟨target, kind, t.value.line⟩

/-- The names that a clause lists. -/
def listedNames (children : List ResolvedTree) : List ResolvedTree :=
  children.filter (·.value.isListedName)

namespace Rule

/-- The rules in use unless others are asked for, in order. -/
def standard : List Rule :=
  [inheritance, traitUse, typeHint, instantiation, staticAccess, classTest, importStatement]

/-- The kinds of edges that a rule records. -/
def kinds : Rule → List EdgeKind
  | inheritance => [.inherits, .implements]
  | traitUse => [.usesTrait]
  | typeHint => [.typeHint]
  | instantiation => [.instantiates]
  | staticAccess => [.staticCall, .staticProperty, .classConstant]
  | classTest => [.classTest]
  | importStatement => [.importStatement]

/-- What a rule records at a node. -/
def events (rule : Rule) : ResolvedTree → List Event
  | .node n children =>
    match rule, n.kind with
    | inheritance, .clause .parents => (listedNames children).flatMap (edgesTo .inherits)
    | inheritance, .clause .interfaces => (listedNames children).flatMap (edgesTo .implements)
    | traitUse, .clause .traits => (listedNames children).flatMap (edgesTo .usesTrait)
    | typeHint, .typeExpression _ => edgesTo .typeHint (.node n children)
    | instantiation, .creation =>
      (children.find? (·.value.named)).toList.flatMap (edgesTo .instantiates)
    | staticAccess, .memberAccess .call =>
      (children.find? (·.value.fills .scope)).toList.flatMap (edgesTo .staticCall)
    | staticAccess, .memberAccess .property =>
      (children.find? (·.value.fills .scope)).toList.flatMap (edgesTo .staticProperty)
    | staticAccess, .constantAccess =>
      (children.find? (·.value.named)).toList.flatMap (edgesTo .classConstant)
    | classTest, .binary =>
      if isClassTest (children.map (·.value.toNode)) then
        (children.find? (·.value.fills .right)).toList.flatMap (edgesTo .classTest)
      else []
    | importStatement, .importDeclaration => n.imports.map (.use · n.line)
    | _, _ => []

end Rule

namespace Tree

mutual

/-- The events of a walk through a tree. -/
def events (rules : List Rule) : ResolvedTree → List Event
  | node n children =>
    (n.declares.map .enter).toList ++ rules.flatMap (·.events (node n children)) ++
      eventsAll rules children ++ (n.declares.map fun _ => .leave).toList

def eventsAll (rules : List Rule) : List ResolvedTree → List Event
  | [] => []
  | t :: ts => events rules t ++ eventsAll rules ts

end

end Tree

/-- The record of a file from its syntax tree. -/
def FileRecord.ofTree (rules : List Rule) (path : Pathname) (countsImports : Bool)
    (t : SyntaxTree) : FileRecord :=
  .ofEvents path countsImports (t.resolve.events rules)

end ClassGraph
