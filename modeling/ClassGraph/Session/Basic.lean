import ClassGraph.Cache.Indexer

namespace ClassGraph

/-- The cache directories that a session has. -/
inductive Slot where
  | named
  | fallback
deriving DecidableEq, Repr, Inhabited

structure Shelf where
  named : CacheDirectory := none
  fallback : CacheDirectory := none
deriving Inhabited

namespace Shelf

def get (shelf : Shelf) : Option Slot → CacheDirectory
  | some .named => shelf.named
  | some .fallback => shelf.fallback
  | none => none

def set (shelf : Shelf) (directory : CacheDirectory) : Option Slot → Shelf
  | some .named => { shelf with named := directory }
  | some .fallback => { shelf with fallback := directory }
  | none => shelf

end Shelf

/-- How an indexer is set up: its directory, if it has one, its limit, and its rules. -/
structure Setup where
  slot : Option Slot := none
  limit : Option Nat := none
  rules : List Rule := Rule.standard
deriving Inhabited

/-- A class that was taken out of a record. -/
structure KeptClass where
  record : ClassRecord
  owner : Nat
deriving DecidableEq, Repr, Inhabited

structure Session where
  store : List (Pathname × ByteArray) := []
  shelf : Shelf := {}
  slot : Option Slot := none
  indexer : Indexer := {}
  handles : List (String × Shared) := []
  kept : List (String × KeptClass) := []
  reads : Nat := 0
  /-- How many identities have been given out. -/
  issued : Nat := 0
deriving Inhabited

/-- The ways to name a class in a session. -/
inductive ClassChoice where
  | ofHandle (handle className : String)
  | kept (name : String)
  | detached (name : String)
deriving DecidableEq, Repr

/-- What to do with the bytes of a stored entry. -/
inductive Tampering where
  | truncate (length : Nat)
  | append (bytes : List UInt8)
  | patch (offset : Nat) (bytes : List UInt8)
deriving DecidableEq, Repr

def Tampering.apply (bytes : List UInt8) : Tampering → List UInt8
  | truncate length => bytes.take length
  | append more => bytes ++ more
  | patch offset new => bytes.take offset ++ new ++ bytes.drop (offset + new.length)

inductive Step where
  | put (path : Pathname) (bytes : ByteArray)
  | remove (path : Pathname)
  | ingest (path : Pathname) (countsImports : Bool) (handle : Option String)
  | declaration (choice : ClassChoice)
  | keep (handle className name : String)
  | owner (choice : ClassChoice)
  | release (handle : String)
  | equal (handle other : String)
  | equalClasses (choice : ClassChoice) (other : String)
  | declared (name : String)
  | scanned (path : Pathname)
  | clearDeclarations
  | clearCache
  | renew (setup : Setup)
  | lookUp (key : CacheKey)
  | enter (key : CacheKey) (build : Except SourceError FileRecord) (handle : Option String)
  | listing
  | tamper (place : Nat) (tampering : Tampering)
  | block (place : Nat)
  | removeDirectory

inductive Answer where
  | done
  | nothing
  | truth (value : Bool)
  | number (value : Nat)
  | record (shared : Shared)
  | entered (shared : Shared) (built : Bool)
  | declaration (declaration : Declaration)
  | listing (entries : List (String × Option ByteArray))
  | failed (error : SourceError)

/-- Sizes that are told after every step. -/
structure Counts where
  parses : Nat
  reads : Nat
  memory : Nat
  directory : Nat
  declarations : Nat
deriving DecidableEq, Repr

namespace Session

/-- Puts a fresh indexer to work; its directory is made if need be. -/
def renew (s : Session) (setup : Setup) : Session :=
  { s with
    slot := setup.slot
    shelf := s.shelf.set (s.shelf.get setup.slot).make setup.slot
    indexer :=
      { rules := setup.rules
        memory := (setup.limit.map MemoryCache.ofLimit).getD {} } }

def start (setup : Setup) : Session :=
  renew {} setup

def directory (s : Session) : CacheDirectory :=
  s.shelf.get s.slot

def counts (s : Session) : Counts :=
  { parses := s.indexer.parses
    reads := s.reads
    memory := s.indexer.memory.entries.length
    directory := s.directory.size
    declarations := s.indexer.declarations.size }

/-- The content of a path in the store. -/
def content? (s : Session) (path : Pathname) : Option ByteArray :=
  (s.store.find? (·.1.same path)).map (·.2)

def reader (s : Session) : FileReader := fun path =>
  match s.content? path with
  | some bytes => .ok bytes
  | none => .error .notInMemory

/-- A store without a path. -/
def without (s : Session) (path : Pathname) : List (Pathname × ByteArray) :=
  s.store.filter (!·.1.same path)

/-- The record of an identity, while something holds it. -/
def alive? (s : Session) (id : Nat) : Option Shared :=
  (s.handles.map (·.2) ++ s.indexer.memory.entries.map (·.shared)).find? (·.id == id)

/-- A chosen class, with the record that owns it if that is alive. -/
def choose? (s : Session) : ClassChoice → Option (ClassRecord × Option Shared)
  | .ofHandle handle className => do
    let shared ← s.handles.lookup handle
    let c ← shared.file.class? className
    some (c, some shared)
  | .kept name => (s.kept.lookup name).map fun k => (k.record, s.alive? k.owner)
  | .detached name => some (⟨name, []⟩, none)

/-- Holds a record under a handle, in the place of what it held. -/
def hold (s : Session) (handle : Option String) (shared : Shared) : Session :=
  match handle with
  | some handle => { s with handles := (handle, shared) :: s.handles.filter (·.1 != handle) }
  | none => s

/-- Notes that an identity was given out, if the answer has a new one. -/
def issue (s : Session) (shared : Shared) : Session :=
  if shared.id = s.issued then { s with issued := s.issued + 1 } else s

/-- The session behind an answer that may bring a record. -/
def receive (s : Session) (handle : Option String) : Except SourceError Shared → Session
  | .ok shared => (s.issue shared).hold handle shared
  | .error _ => s

def ingest (s : Session) (grammar : Grammar) (victim : Nat) (path : Pathname)
    (countsImports : Bool) (handle : Option String) : Answer × Session :=
  let ingested := s.indexer.ingest grammar s.reader s.directory victim s.issued path countsImports
  let s' := { s with
    indexer := ingested.indexer
    shelf := s.shelf.set ingested.directory s.slot
    reads := s.reads + 1 }
  (match ingested.answer with
    | .ok shared => .record shared
    | .error error => .failed error,
    s'.receive handle ingested.answer)

def declaration (s : Session) (grammar : Grammar) (choice : ClassChoice) : Answer × Session :=
  match s.choose? choice with
  | none => (.nothing, s)
  | some (c, owner) =>
    let path := owner.map (·.file.path)
    let found := s.indexer.declarationOf grammar s.reader c.name path
    let read := if (s.indexer.fileToScan c.name path).isSome then 1 else 0
    (match found.1 with
      | .ok (some declaration) => .declaration declaration
      | .ok none => .nothing
      | .error error => .failed error,
      { s with indexer := found.2, reads := s.reads + read })

/-- Enters a record into the cache by hand. -/
def enter (s : Session) (victim : Nat) (key : CacheKey) (build : Except SourceError FileRecord)
    (handle : Option String) : Answer × Session :=
  let fetched := Cache.fetch ⟨s.indexer.memory, s.directory⟩ victim s.issued key fun _ => build
  let s' := { s with
    indexer := { s.indexer with memory := fetched.cache.memory }
    shelf := s.shelf.set fetched.cache.directory s.slot }
  (match fetched.answer with
    | .ok shared => .entered shared fetched.built
    | .error error => .failed error,
    s'.receive handle fetched.answer)

/-- The entries of the named directory in the order of their names. -/
def listed (s : Session) : List (String × FileNode) :=
  inOrder (fun a b => Text.before a.1 b.1) (s.shelf.named.getD [])

/-- Puts a node in the place of a listed entry. -/
def replaceListed (s : Session) (name : String) (node : FileNode) : Session :=
  { s with shelf := { s.shelf with named := s.shelf.named.map (FileNode.setEntry name node) } }

def tamper (s : Session) (place : Nat) (tampering : Tampering) : Answer × Session :=
  match s.listed[place]? with
  | some (name, .file bytes) =>
    let changed := tampering.apply bytes.data.toList
    (.number changed.length, s.replaceListed name (.file ⟨changed.toArray⟩))
  | _ => (.nothing, s)

/-- Does one step. `victim` chooses the entry that a full memory cache gives up. -/
def step (s : Session) (grammar : Grammar) (victim : Nat) : Step → Answer × Session
  | .put path bytes => (.done, { s with store := (path, bytes) :: s.without path })
  | .remove path => (.truth (s.content? path).isSome, { s with store := s.without path })
  | .ingest path countsImports handle => s.ingest grammar victim path countsImports handle
  | .declaration choice => s.declaration grammar choice
  | .keep handle className name =>
    match s.handles.lookup handle with
    | none => (.nothing, s)
    | some shared =>
      match shared.file.class? className with
      | none => (.nothing, s)
      | some c => (.done, { s with kept := (name, ⟨c, shared.id⟩) :: s.kept.filter (·.1 != name) })
  | .owner choice =>
    (match (s.choose? choice).bind (·.2) with
      | some shared => .number shared.id
      | none => .nothing, s)
  | .release handle =>
    (.truth (s.handles.lookup handle).isSome,
      { s with handles := s.handles.filter (·.1 != handle) })
  | .equal handle other =>
    (match s.handles.lookup handle, s.handles.lookup other with
      | some a, some b => .truth (a.file.same b.file)
      | _, _ => .nothing, s)
  | .equalClasses choice other =>
    (match s.choose? choice with
      | some (c, _) => .truth (c == ⟨other, []⟩)
      | none => .nothing, s)
  | .declared name =>
    (match s.indexer.declarations.get? name with
      | some declaration => .declaration declaration
      | none => .nothing, s)
  | .scanned path => (.truth (s.indexer.declarations.hasScanned path), s)
  | .clearDeclarations => (.truth true, { s with indexer := { s.indexer with declarations := {} } })
  | .clearCache =>
    let cleared := Cache.clear ⟨s.indexer.memory, s.directory⟩
    (.truth true, { s with
      indexer := { s.indexer with memory := cleared.memory }
      shelf := s.shelf.set cleared.directory s.slot })
  | .renew setup => (.done, s.renew setup)
  | .lookUp key =>
    (match s.indexer.memory.get? key with
      | some shared => .record shared
      | none => .nothing, s)
  | .enter key build handle => s.enter victim key build handle
  | .listing => (.listing (s.listed.map fun (name, node) => (name, node.bytes?)), s)
  | .tamper place tampering => s.tamper place tampering
  | .block place =>
    match s.listed[place]? with
    | some (name, _) => (.done, s.replaceListed name (.folder []))
    | none => (.nothing, s)
  | .removeDirectory =>
    (.truth s.shelf.named.isSome, { s with shelf := { s.shelf with named := none } })

/-- Does several steps, each with its choice of victim, and collects the answers. -/
def run (s : Session) (grammar : Grammar) : List (Step × Nat) → List (Answer × Counts) × Session
  | [] => ([], s)
  | (step, victim) :: rest =>
    let (answer, s') := s.step grammar victim step
    let (answers, last) := run s' grammar rest
    ((answer, s'.counts) :: answers, last)

end Session

end ClassGraph
