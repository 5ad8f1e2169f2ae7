import ClassGraph.Text.Basic

namespace ClassGraph

/-- The separator between the segments of a class name. -/
def isBackslash (c : Char) : Bool :=
  c == '\\'

/-- A name without the backslashes in front of it. -/
def dropLeadingBackslashes (name : String) : String :=
  String.ofList (name.toList.dropWhile isBackslash)

/-- A name without the backslashes around it. -/
def stripBackslashes (name : String) : String :=
  String.ofList (Text.strip isBackslash name.toList)

/-- Joins a name to the namespace it stands in; the global namespace is empty. -/
def fullNameIn (space name : String) : String :=
  if space.isEmpty then name else space ++ "\\" ++ name

/-- The last segment of a name. -/
def lastSegment (name : String) : String :=
  String.ofList ((Text.pieces isBackslash name.toList).getLastD [])

/-- Imported classes by short name, the newest first. Short names are compared without regard to
ASCII case. -/
structure ImportTable where
  entries : List (String × String) := []
deriving DecidableEq, Repr, Inhabited

namespace ImportTable

def add (table : ImportTable) (shortName target : String) : ImportTable :=
  ⟨(Text.lower shortName, dropLeadingBackslashes target) :: table.entries⟩

def find? (table : ImportTable) (shortName : String) : Option String :=
  table.entries.lookup (Text.lower shortName)

theorem find?_add (table : ImportTable) (added target shortName : String) :
    (table.add added target).find? shortName =
      if Text.sameIgnoringCase shortName added then some (dropLeadingBackslashes target)
      else table.find? shortName := by
  simp only [find?, add, List.lookup_cons, Text.sameIgnoringCase]
  split <;> simp_all

end ImportTable

/-- The class around a reference. An anonymous class has no name. -/
structure EnclosingClass where
  name : Option String := none
  parent : Option String := none
deriving DecidableEq, Repr, Inhabited

structure Scope where
  space : String := ""
  imports : ImportTable := {}
  enclosing : Option EnclosingClass := none
deriving DecidableEq, Repr, Inhabited

namespace Scope

/-- A namespace starts with no imports and outside any class. -/
def ofSpace (name : String) : Scope :=
  { space := stripBackslashes name }

def fullName (s : Scope) (name : String) : String :=
  fullNameIn s.space name

end Scope

end ClassGraph
