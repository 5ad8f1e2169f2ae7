import ClassGraph.Name.Scope
import ClassGraph.Record.Basic
import Std.Data.HashMap
import Std.Data.HashSet

namespace ClassGraph

structure CodeMap where
  files : List FileRecord := []
deriving DecidableEq, Repr, Inhabited

/-- Where a class stands in a map: the number of its file, and its own number in the file. -/
structure Position where
  file : Nat
  place : Nat
deriving DecidableEq, Repr

/-- The position of the class that counts for each name. -/
abbrev PositionIndex := Std.HashMap String Position

namespace PositionIndex

/-- Enters the classes of a file, the first of which has number `place`. A name that is known keeps
its position. -/
def addClasses (index : PositionIndex) (file place : Nat) : List ClassRecord → PositionIndex
  | [] => index
  | c :: rest => addClasses (index.insertIfNew c.name ⟨file, place⟩) file (place + 1) rest

/-- Enters the classes of several files, the first of which has number `file`. -/
def addFiles (index : PositionIndex) (file : Nat) : List FileRecord → PositionIndex
  | [] => index
  | record :: rest => addFiles (index.addClasses file 0 record.classes) (file + 1) rest

end PositionIndex

namespace CodeMap

/-- Every class with the file it stands in, in order. -/
def entries (m : CodeMap) : List (FileRecord × ClassRecord) :=
  m.files.flatMap fun file => file.classes.map (file, ·)

def classes (m : CodeMap) : List ClassRecord :=
  m.files.flatMap (·.classes)

def index (m : CodeMap) : PositionIndex :=
  PositionIndex.addFiles {} 0 m.files

/-- The class at a position, with its file. -/
def at? (m : CodeMap) (position : Position) : Option (FileRecord × ClassRecord) := do
  let file ← m.files[position.file]?
  let c ← file.classes[position.place]?
  some (file, c)

/-- The class that an index has for a name, which may be given with leading backslashes. -/
def lookUp? (m : CodeMap) (index : PositionIndex) (name : String) :
    Option (FileRecord × ClassRecord) := do
  let position ← index[dropLeadingBackslashes name]?
  m.at? position

/-- The first class of a name, with its file. -/
def find? (m : CodeMap) (name : String) : Option (FileRecord × ClassRecord) :=
  m.lookUp? m.index name

def class? (m : CodeMap) (name : String) : Option ClassRecord :=
  (m.find? name).map (·.2)

/-- How many names the classes of a map have. -/
def classCount (m : CodeMap) : Nat :=
  m.index.size

/-- The targets of the edges by which a class takes over from others. -/
def ancestralTargets (c : ClassRecord) : List String :=
  (c.edges.filter (·.kind.isAncestral)).map (·.target)

/-- The names that a name leads to in one step, by the class that an index has for it. -/
def nextNames (m : CodeMap) (index : PositionIndex) (name : String) : List String :=
  match m.lookUp? index name with
  | some (_, c) => ancestralTargets c
  | none => []

/-- The names that a search has found, the latest first, as a list and as a set. -/
structure Found where
  names : List String := []
  known : Std.HashSet String := {}
deriving Inhabited

namespace Found

/-- Adds a name that has not been found before, and puts it at the end of the queue. -/
def add (state : Found × List String) (name : String) : Found × List String :=
  let (found, queue) := state
  if found.known.contains name then (found, queue)
  else ({ names := name :: found.names, known := found.known.insert name }, queue ++ [name])

/-- Searches breadth first: the first name of the queue is taken, and what it leads to for the first
time is put at the end. -/
def search (next : String → List String) : (fuel : Nat) → (queue : List String) → Found → Found
  | 0, _, found => found
  | _, [], found => found
  | fuel + 1, name :: queue, found =>
    let (found, queue) := (next name).foldl add (found, queue)
    search next fuel queue found

end Found

/-- All names that a name leads to in one step or more, the nearest first. Every name is put on the
queue at most once, so that the fuel is never used up. -/
def ancestors (m : CodeMap) (name : String) : List String :=
  let index := m.index
  let found := Found.search (m.nextNames index) ((m.classes.flatMap ancestralTargets).length + 1)
    [dropLeadingBackslashes name] {}
  found.names.reverse

end CodeMap

end ClassGraph
