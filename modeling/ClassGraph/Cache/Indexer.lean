import ClassGraph.Cache.Basic
import ClassGraph.Declaration.Index
import ClassGraph.Record.Rule

namespace ClassGraph

/-- How files are read. -/
abbrev FileReader := Pathname → Except ReadFailure ByteArray

structure Indexer where
  rules : List Rule := Rule.standard
  memory : MemoryCache := {}
  declarations : DeclarationIndex := {}
  parses : Nat := 0
deriving Inhabited

/-- What the indexer answers about a file, and what it and its directory are then. -/
structure Ingested where
  answer : Except SourceError Shared
  indexer : Indexer
  directory : CacheDirectory

namespace Indexer

/-- Reads a file; a failure names its path. -/
def readFile (read : FileReader) (path : Pathname) : Except SourceError ByteArray :=
  match read path with
  | .ok bytes => .ok bytes
  | .error cause => .error (.unreadable path cause)

/-- The record of a content, without any cache. -/
def build (rules : List Rule) (grammar : Grammar) (path : Pathname) (countsImports : Bool)
    (bytes : ByteArray) : Except SourceError FileRecord :=
  (grammar.parse path bytes).map fun source =>
    .ofTree rules path countsImports source.tree

/-- The record of a file as it is now. -/
def ingest (indexer : Indexer) (grammar : Grammar) (read : FileReader) (directory : CacheDirectory)
    (victim id : Nat) (path : Pathname) (countsImports : Bool) : Ingested :=
  match readFile read path with
  | .error error => { answer := .error error, indexer, directory }
  | .ok bytes =>
    let fetched := Cache.fetch ⟨indexer.memory, directory⟩ victim id
      ⟨path, fingerprint bytes, countsImports⟩
      fun _ => build indexer.rules grammar path countsImports bytes
    { answer := fetched.answer
      indexer :=
        { indexer with
          memory := fetched.cache.memory
          parses := if fetched.built then indexer.parses + 1 else indexer.parses }
      directory := fetched.cache.directory }

/-- The file that has to be scanned to tell where a class is declared: the one that owns the class,
unless the declaration is known or the file is scanned already. -/
def fileToScan (indexer : Indexer) (name : String) (owner : Option Pathname) : Option Pathname :=
  if (indexer.declarations.get? name).isSome then none
  else owner.filter (!indexer.declarations.hasScanned ·)

/-- Enters the declarations of a file. -/
def scanFile (indexer : Indexer) (grammar : Grammar) (read : FileReader) (path : Pathname) :
    Except SourceError Unit × Indexer :=
  match readFile read path with
  | .error error => (.error error, indexer)
  | .ok bytes =>
    let counted := { indexer with parses := indexer.parses + 1 }
    match grammar.parse path bytes with
    | .error error => (.error error, counted)
    | .ok source => (.ok (), { counted with declarations := indexer.declarations.scan source })

/-- The declaration of a class that a file may own. -/
def declarationOf (indexer : Indexer) (grammar : Grammar) (read : FileReader) (name : String)
    (owner : Option Pathname) : Except SourceError (Option Declaration) × Indexer :=
  match indexer.fileToScan name owner with
  | none => (.ok (indexer.declarations.get? name), indexer)
  | some path =>
    let scanned := indexer.scanFile grammar read path
    (scanned.1.map fun _ => scanned.2.declarations.get? name, scanned.2)

end Indexer

end ClassGraph
