import ClassGraph.Record.Basic

namespace ClassGraph

inductive Event where
  | enter (name : String)
  | leave
  | edge (edge : Edge)
  | use (target : String) (line : Nat)
deriving DecidableEq, Repr

structure Recorder where
  /-- The classes entered so far, in order. -/
  classes : List ClassRecord := []
  /-- Places in `classes` of the classes not yet left, the innermost first. -/
  opened : List Nat := []
  imports : List Edge := []
deriving DecidableEq, Repr, Inhabited

namespace Recorder

def addEdge (e : Edge) (c : ClassRecord) : ClassRecord :=
  { c with edges := c.edges ++ [e] }

/-- An edge outside every class is dropped, and so is a leave with no class open. -/
def step (r : Recorder) : Event → Recorder
  | .enter name =>
    { r with classes := r.classes ++ [{ name }], opened := r.classes.length :: r.opened }
  | .leave => { r with opened := r.opened.tail }
  | .edge e =>
    match r.opened with
    | [] => r
    | place :: _ => { r with classes := r.classes.modify place (addEdge e) }
  | .use target line => { r with imports := r.imports ++ [⟨target, .importStatement, line⟩] }

def run (r : Recorder) (events : List Event) : Recorder :=
  events.foldl step r

theorem run_append (r : Recorder) (first second : List Event) :
    r.run (first ++ second) = (r.run first).run second :=
  List.foldl_append

/-- The name of the innermost open class. -/
def current? (r : Recorder) : Option String := do
  let place ← r.opened.head?
  let c ← r.classes[place]?
  some c.name

/-- The record of the file. If imports count, every class has all of them behind its own edges. -/
def finish (r : Recorder) (path : Pathname) (countsImports : Bool) : FileRecord :=
  { path
    classes := r.classes.map fun c =>
      if countsImports then { c with edges := c.edges ++ r.imports } else c
    imports := r.imports
    countsImports }

end Recorder

/-- The record that a list of events makes of a file. -/
def FileRecord.ofEvents (path : Pathname) (countsImports : Bool) (events : List Event) : FileRecord :=
  (Recorder.run {} events).finish path countsImports

end ClassGraph
