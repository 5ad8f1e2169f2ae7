import ClassGraph.File.Pathname
import ClassGraph.Syntax.Tree
import ClassGraph.Text.Quoted

namespace ClassGraph

/-- Why a file gives no bytes. -/
inductive ReadFailure where
  | notInMemory
  | refused
deriving DecidableEq, Repr

def ReadFailure.message : ReadFailure → String
  | notInMemory => "not in memory"
  | refused => "refused"

/-- Why a file gives no record. -/
inductive SourceError where
  | unreadable (path : Pathname) (cause : ReadFailure)
  | malformed (path : Pathname) (line : Nat)
  | noTree (path : Pathname)
deriving DecidableEq, Repr

namespace SourceError

def path : SourceError → Pathname
  | unreadable path _ => path
  | malformed path _ => path
  | noTree path => path

def message : SourceError → String
  | unreadable path cause => "Failed to read " ++ path.text ++ ": " ++ cause.message
  | malformed path line => "Syntax error in " ++ path.text ++ " on line " ++ toString line
  | noTree path => "Parser returned no syntax tree for " ++ path.text

end SourceError

namespace Tree

mutual

/-- The line of the first fault, followed down through the nodes that are flagged; a node without
a flagged child answers for itself. -/
def faultLine : SyntaxTree → Nat
  | node n children => if n.faulty then n.line else (faultLineAmong children).getD n.line

def faultLineAmong : List SyntaxTree → Option Nat
  | [] => none
  | t :: ts => if t.value.hasFault then some (faultLine t) else faultLineAmong ts

end

end Tree

/-- The tree that each content has, if any. -/
abbrev Grammar := ByteArray → Option SyntaxTree

structure SourceFile where
  path : Pathname
  bytes : ByteArray
  tree : SyntaxTree
deriving Inhabited

/-- Parses a file's bytes. -/
def Grammar.parse (grammar : Grammar) (path : Pathname) (bytes : ByteArray) :
    Except SourceError SourceFile :=
  match grammar bytes with
  | none => .error (.noTree path)
  | some tree =>
    if tree.value.hasFault then .error (.malformed path tree.faultLine)
    else .ok { path, bytes, tree }

/-- A row of a listed tree: its depth, and its node without the text. -/
structure Row where
  depth : Nat
  kind : String
  field : String
  flags : Nat
  start : Nat
  stop : Nat
  row : Nat

namespace Row

/-- The text between two places of a source, empty if it is no valid text. -/
def textBetween (source : ByteArray) (start stop : Nat) : String :=
  (String.fromUTF8? (source.extract start stop)).getD ""

/-- Flags: one for a named node, two for an error, four for a missing node, eight for a fault
here or below. -/
def toNode (source : ByteArray) (r : Row) : Node :=
  { kind := .ofSpelling r.kind
    field := if r.field.isEmpty then none else some (.ofSpelling r.field)
    named := r.flags.testBit 0
    faulty := r.flags.testBit 1 || r.flags.testBit 2
    hasFault := r.flags.testBit 3
    start := r.start
    stop := r.stop
    row := r.row
    text := textBetween source r.start r.stop }

end Row

/-- The tree of a source from the list of its rows in preorder. -/
def SyntaxTree.ofRows (source : ByteArray) (rows : List Row) : Option SyntaxTree :=
  Tree.ofPreorder (rows.map fun r => (r.depth, r.toNode source))

namespace SourceFile

/-- One line that tells a source's path and size. -/
def summary (source : SourceFile) : String :=
  "ParsedSource \x7b path: " ++ Text.quoted source.path.text ++
    ", bytes: " ++ toString source.bytes.size ++ " \x7d"

end SourceFile

end ClassGraph
