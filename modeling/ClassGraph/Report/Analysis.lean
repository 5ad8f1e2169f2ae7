import ClassGraph.Cache.Indexer
import ClassGraph.File.Scanner
import ClassGraph.Report.Basic

namespace ClassGraph

/-- What came of indexing a file. -/
structure Outcome where
  path : Pathname
  answer : Except SourceError FileRecord
deriving Inhabited

/-- An indexer between two analyses, with its directory. -/
structure Analyzer where
  scanner : Scanner := {}
  indexer : Indexer := {}
  directory : CacheDirectory := none
  /-- How many files have been indexed. -/
  indexed : Nat := 0
deriving Inhabited

namespace Analyzer

/-- Indexes one file. `victim` chooses the entry that a full memory cache gives up. -/
def index (a : Analyzer) (grammar : Grammar) (read : FileReader) (victim : Nat → Nat)
    (countsImports : Bool) (path : Pathname) : Outcome × Analyzer :=
  let ingested :=
    a.indexer.ingest grammar read a.directory (victim a.indexed) a.indexed path countsImports
  (⟨path, ingested.answer.map (·.file)⟩,
    { a with
      indexer := ingested.indexer
      directory := ingested.directory
      indexed := a.indexed + 1 })

/-- Indexes files one after another. -/
def indexAll (a : Analyzer) (grammar : Grammar) (read : FileReader) (victim : Nat → Nat)
    (countsImports : Bool) : List Pathname → List Outcome × Analyzer
  | [] => ([], a)
  | path :: rest =>
    let (outcome, next) := a.index grammar read victim countsImports path
    let (outcomes, last) := indexAll next grammar read victim countsImports rest
    (outcome :: outcomes, last)

end Analyzer

namespace Report

def record? (outcome : Outcome) : Option FileRecord :=
  match outcome.answer with
  | .ok file => some file
  | .error _ => none

def failure? (outcome : Outcome) : Option SourceError :=
  match outcome.answer with
  | .ok _ => none
  | .error error => some error

/-- The report of outcomes, told in the order of the scan. -/
def ofOutcomes (scanned : List Pathname) (outcomes : List Outcome) : Report :=
  let told := scanned.filterMap fun path => outcomes.find? (·.path = path)
  { map := ⟨told.filterMap record?⟩, failures := told.filterMap failure? }

end Report

namespace Analyzer

/-- Analyses the files of a scan, indexing them in a given order. -/
def analyzeInOrder (a : Analyzer) (grammar : Grammar) (read : FileReader) (victim : Nat → Nat)
    (countsImports : Bool) (scanned order : List Pathname) : Report × Analyzer :=
  let (outcomes, last) := a.indexAll grammar read victim countsImports order
  (.ofOutcomes scanned outcomes, last)

/-- Analyses the files below a root. -/
def analyze (a : Analyzer) (grammar : Grammar) (read : FileReader) (tree : FileTree)
    (countsImports : Bool) (root : Pathname) : Report × Analyzer :=
  let scanned := a.scanner.scan tree root
  a.analyzeInOrder grammar read (fun _ => 0) countsImports scanned scanned

end Analyzer

/-- Reads files from a tree, except those that are refused. -/
def FileTree.reader (tree : FileTree) (refused : List Pathname) : FileReader := fun path =>
  if refused.any (·.same path) then .error .refused
  else match tree.read? path with
    | some bytes => .ok bytes
    | none => .error .notInMemory

end ClassGraph
