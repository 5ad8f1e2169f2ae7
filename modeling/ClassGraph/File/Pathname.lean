import ClassGraph.Text.Basic
import ClassGraph.Text.Order

namespace ClassGraph

structure Pathname where
  text : String
deriving DecidableEq, Repr, Inhabited

/-- One step of a pathname: the root, a leading dot, the parent, or an entry's name. -/
inductive Component where
  | root
  | here
  | parent
  | entry (name : String)
deriving DecidableEq, Repr

namespace Component

def rank : Component → Nat
  | root => 0
  | here => 1
  | parent => 2
  | entry _ => 3

/-- The name of an entry; the other components have none. -/
def label : Component → String
  | entry name => name
  | _ => ""

/-- A component as it is written. -/
def text : Component → String
  | root => "/"
  | here => "."
  | parent => ".."
  | entry name => name

/-- Strict order of components: the root, the leading dot, the parent, then the names. -/
def before (a b : Component) : Bool :=
  a.rank < b.rank || (a.rank == b.rank && Text.before a.label b.label)

end Component

namespace Pathname

def isSeparator (c : Char) : Bool :=
  c == '/'

/-- The texts between the separators of a pathname, empty ones left out. -/
def segments (p : Pathname) : List String :=
  ((Text.pieces isSeparator p.text.toList).filter (!·.isEmpty)).map String.ofList

def isAbsolute (p : Pathname) : Bool :=
  p.text.toList.head? == some '/'

/-- A segment below the first step; a dot names nothing there. -/
def innerComponent (segment : String) : Option Component :=
  if segment = "." then none
  else if segment = ".." then some .parent
  else some (.entry segment)

def components (p : Pathname) : List Component :=
  if p.isAbsolute then .root :: p.segments.filterMap innerComponent
  else match p.segments with
    | [] => []
    | first :: rest =>
      if first = "." then .here :: rest.filterMap innerComponent
      else (first :: rest).filterMap innerComponent

/-- Whether two pathnames have the same components. -/
def same (p q : Pathname) : Bool :=
  p.components == q.components

theorem same_iff {p q : Pathname} : p.same q = true ↔ p.components = q.components := by
  simp [same]

/-- Strict order of pathnames, component by component. -/
def before (p q : Pathname) : Bool :=
  lexBefore Component.before p.components q.components

/-- The pathname of an entry of the directory that `p` names. -/
def join (p : Pathname) (name : String) : Pathname :=
  if p.text.toList.getLast? == some '/' || p.text.isEmpty then ⟨p.text ++ name⟩
  else ⟨p.text ++ "/" ++ name⟩

/-- The pathname with given components. -/
def ofComponents : List Component → Pathname
  | .root :: rest => ⟨"/" ++ String.intercalate "/" (rest.map Component.text)⟩
  | components => ⟨String.intercalate "/" (components.map Component.text)⟩

/-- The pathname without its last component. -/
def parent (p : Pathname) : Pathname :=
  ofComponents p.components.dropLast

/-- The name that the last component gives, if it is an entry. -/
def fileName? (p : Pathname) : Option String :=
  match p.components.getLast? with
  | some (.entry name) => some name
  | _ => none

/-- What follows the last dot of a file name; a name whose only dot is its first character has no
extension. -/
def extension? (p : Pathname) : Option String := do
  let name ← p.fileName?
  let tail := (name.toList.reverse.takeWhile (· != '.')).reverse
  let stem := name.toList.take (name.toList.length - tail.length - 1)
  if stem.isEmpty || tail.length = name.toList.length then none else some (String.ofList tail)

end Pathname

end ClassGraph
