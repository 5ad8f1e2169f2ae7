import ClassGraph.Cache.Stored
import ClassGraph.Digest.Sha256
import ClassGraph.File.Tree
import ClassGraph.Syntax.Source

namespace ClassGraph

/-- A record with an identity: two answers with one identity are one shared object. -/
structure Shared where
  id : Nat
  file : FileRecord
deriving DecidableEq, Repr, Inhabited

/-- What an entry answers for. -/
structure CacheKey where
  path : Pathname
  fingerprint : String
  countsImports : Bool
deriving DecidableEq, Repr, Inhabited

structure MemoryEntry where
  key : CacheKey
  shared : Shared
deriving DecidableEq, Repr, Inhabited

namespace MemoryEntry

def isFor (entry : MemoryEntry) (path : Pathname) : Bool :=
  entry.key.path.same path

def answers (entry : MemoryEntry) (key : CacheKey) : Bool :=
  entry.key.fingerprint == key.fingerprint && entry.key.countsImports == key.countsImports

end MemoryEntry

/-- Entries in memory, at most one for each path. -/
structure MemoryCache where
  limit : Nat := 10000
  entries : List MemoryEntry := []
deriving DecidableEq, Repr, Inhabited

namespace MemoryCache

/-- An empty cache; the limit is at least one. -/
def ofLimit (limit : Nat) : MemoryCache :=
  { limit := max limit 1 }

def find? (cache : MemoryCache) (path : Pathname) : Option MemoryEntry :=
  cache.entries.find? (·.isFor path)

def get? (cache : MemoryCache) (key : CacheKey) : Option Shared :=
  ((cache.find? key.path).filter (·.answers key)).map (·.shared)

/-- Makes room for a path that has no entry: in a full cache one entry is given up, which `victim`
chooses. -/
def makeRoom (cache : MemoryCache) (victim : Nat) : MemoryCache :=
  if cache.entries.length < cache.limit then cache
  else { cache with entries := cache.entries.eraseIdx (victim % cache.entries.length) }

/-- Enters a record, in the place of the entry that its path has. -/
def insert (cache : MemoryCache) (victim : Nat) (key : CacheKey) (shared : Shared) : MemoryCache :=
  if (cache.find? key.path).isSome then
    { cache with
      entries := cache.entries.map fun entry =>
        if entry.isFor key.path then ⟨{ key with path := entry.key.path }, shared⟩ else entry }
  else
    let room := cache.makeRoom victim
    { room with entries := room.entries ++ [⟨key, shared⟩] }

end MemoryCache

/-- A directory of stored records, or `none` where there is no directory: nothing can be read or
written there. -/
abbrev CacheDirectory := Option (List (String × FileNode))

namespace CacheDirectory

/-- The name of the file that holds the record of a path. -/
def entryName (path : Pathname) : String :=
  "ref_" ++ String.ofList ((fingerprint path.text.toUTF8).toList.take 16) ++ ".bincode"

def size (directory : CacheDirectory) : Nat :=
  (directory.getD []).length

def read? (directory : CacheDirectory) (name : String) : Option ByteArray :=
  (directory.bind (·.lookup name)).bind FileNode.bytes?

/-- Writes a file; nothing happens where a folder has its name. -/
def write (directory : CacheDirectory) (name : String) (bytes : ByteArray) : CacheDirectory :=
  directory.map fun entries =>
    match entries.lookup name with
    | some (.folder _) => entries
    | _ => FileNode.setEntry name (.file bytes) entries

/-- The record stored for a key. -/
def load? (directory : CacheDirectory) (key : CacheKey) : Option FileRecord := do
  let bytes ← directory.read? (entryName key.path)
  let stored ← StoredRecord.decode bytes.data.toList
  if stored.answers key.path key.fingerprint key.countsImports then some stored.toRecord else none

/-- Stores a record under a path. -/
def store (directory : CacheDirectory) (key : CacheKey) (file : FileRecord) : CacheDirectory :=
  directory.write (entryName key.path)
    ⟨(StoredRecord.ofRecord key.fingerprint file).encode.toArray⟩

/-- Empties a directory that is there. -/
def clear (directory : CacheDirectory) : CacheDirectory :=
  directory.map fun _ => []

/-- A directory that is there, made if need be. -/
def make (directory : CacheDirectory) : CacheDirectory :=
  some (directory.getD [])

end CacheDirectory

structure Cache where
  memory : MemoryCache := {}
  directory : CacheDirectory := none
deriving Inhabited

/-- What asking the cache gives: the answer, whether the record had to be built, and the cache
behind it. -/
structure Fetched where
  answer : Except SourceError Shared
  built : Bool
  cache : Cache

namespace Cache

/-- The record of a key, from memory, from the directory, or built. A record that comes to memory
has the identity `id`. A record that is built is stored in the directory; if it cannot be built,
nothing changes. -/
def fetch (cache : Cache) (victim id : Nat) (key : CacheKey)
    (build : Unit → Except SourceError FileRecord) : Fetched :=
  match cache.memory.get? key with
  | some shared => { answer := .ok shared, built := false, cache }
  | none =>
    match cache.directory.load? key with
    | some file =>
      { answer := .ok ⟨id, file⟩
        built := false
        cache := { cache with memory := cache.memory.insert victim key ⟨id, file⟩ } }
    | none =>
      match build () with
      | .error error => { answer := .error error, built := true, cache }
      | .ok file =>
        { answer := .ok ⟨id, file⟩
          built := true
          cache :=
            { memory := cache.memory.insert victim key ⟨id, file⟩
              directory := cache.directory.store key file } }

def clear (cache : Cache) : Cache :=
  { memory := { cache.memory with entries := [] }, directory := cache.directory.clear }

end Cache

end ClassGraph
