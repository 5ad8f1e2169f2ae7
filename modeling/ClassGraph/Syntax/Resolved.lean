import ClassGraph.Name.Resolve
import ClassGraph.Syntax.Tree

namespace ClassGraph

/-- A node with the class names that resolution gives it. -/
structure ResolvedNode extends Node where
  /-- The classes that the node's text refers to. -/
  names : List String := []
  /-- The full name of the class that the node declares. -/
  declares : Option String := none
  /-- The classes that the node imports. -/
  imports : List String := []
deriving DecidableEq, Repr, Inhabited

abbrev ResolvedTree := Tree ResolvedNode

/-- The first child that fills a field. -/
def childFilling? (field : Field) (children : List SyntaxTree) : Option SyntaxTree :=
  children.find? (·.value.fills field)

/-- The text of the first child that fills a field. -/
def textFilling? (field : Field) (children : List SyntaxTree) : Option String :=
  (childFilling? field children).map (·.value.text)

/-- For each entry, whether it is the first one satisfying `p`. -/
def markFirst {α : Type} (p : α → Bool) : List α → List Bool
  | [] => []
  | a :: as => if p a then true :: as.map fun _ => false else false :: markFirst p as

section Imports

/-- Whether a child of an import clause can be the imported name. -/
def isImportTarget (n : Node) : Bool :=
  n.named && (n.kind == .name .simple || n.kind == .name .qualified)

/-- An import clause as short name and full name, below a group prefix that may be empty. Clauses
that import functions or constants have a type and import no class. -/
def importOfClause (groupName : String) : SyntaxTree → Option (String × String)
  | .node clause children => do
    if clause.kind != .importClause || (childFilling? .importType children).isSome then none
    let isShortName := markFirst (·.value.fills .shortName) children
    let (target, _) ← (children.zip isShortName).find? fun (child, short) =>
      isImportTarget child.value && !short
    let full := fullNameIn (stripBackslashes groupName) (dropLeadingBackslashes target.value.text)
    some ((textFilling? .shortName children).getD (lastSegment full), full)

/-- The imports of a declaration's children, left to right; the last namespace name before a group
is the group's prefix. -/
def importsOfChildren (groupName : String) : List SyntaxTree → List (String × String)
  | [] => []
  | child :: rest =>
    if !child.value.named then importsOfChildren groupName rest
    else match child.value.kind with
      | .namespaceName => importsOfChildren child.value.text rest
      | .importClause => (importOfClause "" child).toList ++ importsOfChildren groupName rest
      | .importGroup =>
        (child.children.filter (·.value.named)).filterMap (importOfClause groupName) ++
          importsOfChildren groupName rest
      | _ => importsOfChildren groupName rest

/-- The class imports of an import declaration, as short name and full name. -/
def importsOf (children : List SyntaxTree) : List (String × String) :=
  if (childFilling? .importType children).isSome then [] else importsOfChildren "" children

end Imports

/-- Whether the operator among the parts of a binary expression tests for a class. -/
def isClassTest (parts : List Node) : Bool :=
  match parts.find? (·.fills .operator) with
  | some operator => Text.sameIgnoringCase operator.kind.spelling "instanceof"
  | none => false

namespace Scope

/-- The class that the first extends clause among the children names first. -/
def parentNamed (s : Scope) (children : List SyntaxTree) : Option String := do
  let clause ← children.find? fun child => child.value.named && child.value.kind == .clause .parents
  let parent ← clause.children.find? (·.value.isListedName)
  (s.meaning parent.value.text).bind Referent.name?

/-- The full name of the class that a node declares. -/
def declared (s : Scope) (n : Node) (children : List SyntaxTree) : Option String :=
  match n.kind with
  | .declaration _ => (textFilling? .name children).map s.fullName
  | _ => none

/-- The class around the children of a node. -/
def enclosingInside (s : Scope) (n : Node) (children : List SyntaxTree) : Option EnclosingClass :=
  match n.kind with
  | .declaration form =>
    match s.declared n children with
    | some name => some ⟨some name, if form = .plain then s.parentNamed children else none⟩
    | none => s.enclosing
  | .anonymousClass => some ⟨none, s.parentNamed children⟩
  | _ => s.enclosing

/-- Whether a node puts a class around its children. -/
def opensClass (n : Node) (children : List SyntaxTree) : Bool :=
  match n.kind with
  | .declaration _ => (childFilling? .name children).isSome
  | .anonymousClass => true
  | _ => false

/-- The scope that a namespace definition opens. -/
def ofNamespace (children : List SyntaxTree) : Scope :=
  ofSpace ((textFilling? .name children).getD "")

/-- The scope in which the children of a node begin. -/
def inside (s : Scope) (n : Node) (children : List SyntaxTree) : Scope :=
  if n.kind = .namespaceDefinition then ofNamespace children
  else { s with enclosing := s.enclosingInside n children }

/-- The scope behind a node, from the scope before it and the one its children end with. -/
def after (s : Scope) (n : Node) (children : List SyntaxTree) (last : Scope) : Scope :=
  match n.kind with
  | .namespaceDefinition =>
    if (childFilling? .body children).isSome then s else ofNamespace children
  | .importDeclaration =>
    { s with imports := (importsOf children).foldl (fun table i => table.add i.1 i.2) s.imports }
  | _ => if opensClass n children then { last with enclosing := s.enclosing } else last

end Scope

/-- What the pass does at a child: the names that the parent gives it, and whether the pass goes
on below it. -/
structure Mark where
  names : List String := []
  entered : Bool
deriving DecidableEq, Repr

namespace Mark

/-- Enters every child and gives the chosen ones the class they name. -/
def entering (s : Scope) (chosen : List Bool) (children : List SyntaxTree) : List Mark :=
  (children.zip chosen).map fun (child, isChosen) =>
    { names := if isChosen && child.value.isName then s.namesOfReference child.value.text else []
      entered := true }

/-- Enters every child and gives none a name. -/
def plain (children : List SyntaxTree) : List Mark :=
  children.map fun _ => { entered := true }

/-- The marks of a node's children. -/
def ofChildren (s : Scope) (n : Node) (children : List SyntaxTree) : List Mark :=
  match n.kind with
  | .namespaceDefinition =>
    (markFirst (·.value.fills .body) children).map fun isBody => { entered := isBody }
  | .importDeclaration | .typeExpression _ => children.map fun _ => { entered := false }
  | .clause _ => children.map fun child =>
    { names := if child.value.isListedName then s.namesOfReference child.value.text else []
      entered := false }
  | .creation | .constantAccess => entering s (markFirst (·.value.named) children) children
  | .memberAccess _ => entering s (markFirst (·.value.fills .scope) children) children
  | .binary =>
    if isClassTest (children.map (·.value)) then entering s (markFirst (·.value.fills .right) children) children
    else plain children
  | _ => plain children

end Mark

/-- The names that a node has of its own: those of a type. -/
def Scope.ownNames (s : Scope) (n : Node) : List String :=
  match n.kind with
  | .typeExpression _ => s.namesOfType n.text
  | _ => []

/-- A node with what resolution notes at it. -/
def Scope.resolveNode (s : Scope) (given : List String) (n : Node) (children : List SyntaxTree) :
    ResolvedNode :=
  { n with
    names := given ++ s.ownNames n
    declares := s.declared n children
    imports := if n.kind = .importDeclaration then (importsOf children).map (·.2) else [] }

namespace Tree

mutual

/-- A tree that the pass does not enter: only its root has names, those its parent gives it. -/
def leave (given : List String) : SyntaxTree → ResolvedTree
  | node n children => node { n with names := given } (leaveAll children)

def leaveAll : List SyntaxTree → List ResolvedTree
  | [] => []
  | t :: ts => leave [] t :: leaveAll ts

end

mutual

/-- Resolves the names of a tree in a scope and tells the scope behind it. -/
def resolveIn (s : Scope) (given : List String) : SyntaxTree → ResolvedTree × Scope
  | node n children =>
    let below := resolveAllIn (s.inside n children) (Mark.ofChildren s n children) children
    (node (s.resolveNode given n children) below.1, s.after n children below.2)

/-- Resolves the names of several trees one after another; a tree without a mark is left. -/
def resolveAllIn (s : Scope) (marks : List Mark) : List SyntaxTree → List ResolvedTree × Scope
  | [] => ([], s)
  | t :: ts =>
    match marks.head? with
    | some mark =>
      if mark.entered then
        let first := resolveIn s mark.names t
        let others := resolveAllIn first.2 marks.tail ts
        (first.1 :: others.1, others.2)
      else
        let others := resolveAllIn s marks.tail ts
        (leave mark.names t :: others.1, others.2)
    | none => (leaveAll (t :: ts), s)

end

/-- The tree of a file with its names resolved; a file begins in the global namespace. -/
def resolve (t : SyntaxTree) : ResolvedTree :=
  (t.resolveIn {} []).1

end Tree

end ClassGraph
