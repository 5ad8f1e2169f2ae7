import ClassGraph.Record.Basic

namespace ClassGraph

structure StoredRecord where
  path : Pathname
  fingerprint : String
  countsImports : Bool
  classes : List ClassRecord
  imports : List Edge
deriving DecidableEq, Repr, Inhabited

namespace StoredRecord

/-- The stored form of a record of a content with a fingerprint. -/
def ofRecord (fingerprint : String) (file : FileRecord) : StoredRecord :=
  { path := file.path
    fingerprint
    countsImports := file.countsImports
    classes := file.classes.map fun c =>
      { c with edges := c.edges.filter (·.kind != .importStatement) }
    imports := file.imports }

/-- The record of a stored form. Whatever stands among the imports counts as an import. -/
def toRecord (stored : StoredRecord) : FileRecord :=
  let imports := stored.imports.map fun e => { e with kind := .importStatement }
  { path := stored.path
    classes := stored.classes.map fun c =>
      if stored.countsImports then { c with edges := c.edges ++ imports } else c
    imports
    countsImports := stored.countsImports }

/-- Whether a stored form is that of a path, a fingerprint and a flag. -/
def answers (stored : StoredRecord) (path : Pathname) (fingerprint : String)
    (countsImports : Bool) : Bool :=
  stored.path.same path && stored.fingerprint == fingerprint &&
    stored.countsImports == countsImports

end StoredRecord

namespace Bytes

/-- A number in base 256, the lowest digit first. -/
def littleEndian : Nat → Nat → List UInt8
  | 0, _ => []
  | width + 1, n => UInt8.ofNat n :: littleEndian width (n / 256)

def ofLittleEndian : List UInt8 → Nat
  | [] => 0
  | byte :: rest => byte.toNat + 256 * ofLittleEndian rest

/-- The first `count` bytes and the rest, if there are as many. -/
def split? (count : Nat) (bytes : List UInt8) : Option (List UInt8 × List UInt8) :=
  if bytes.length < count then none else some (bytes.take count, bytes.drop count)

def readNat (width : Nat) (bytes : List UInt8) : Option (Nat × List UInt8) :=
  (split? width bytes).map fun (digits, rest) => (ofLittleEndian digits, rest)

/-- A text as the number of its bytes and its bytes. -/
def ofText (s : String) : List UInt8 :=
  littleEndian 8 s.toUTF8.size ++ s.toUTF8.data.toList

def readText (bytes : List UInt8) : Option (String × List UInt8) := do
  let (count, rest) ← readNat 8 bytes
  let (text, rest) ← split? count rest
  let s ← String.fromUTF8? ⟨text.toArray⟩
  some (s, rest)

/-- A list as the number of its items and its items. -/
def ofList {α : Type} (item : α → List UInt8) (items : List α) : List UInt8 :=
  littleEndian 8 items.length ++ items.flatMap item

def readItems {α : Type} (read : List UInt8 → Option (α × List UInt8)) :
    Nat → List UInt8 → Option (List α × List UInt8)
  | 0, bytes => some ([], bytes)
  | count + 1, bytes =>
    match read bytes with
    | none => none
    | some (item, rest) =>
      match readItems read count rest with
      | none => none
      | some (items, rest) => some (item :: items, rest)

def readList {α : Type} (read : List UInt8 → Option (α × List UInt8)) (bytes : List UInt8) :
    Option (List α × List UInt8) :=
  (readNat 8 bytes).bind fun (count, rest) => readItems read count rest

def ofFlag (flag : Bool) : List UInt8 :=
  [if flag then 1 else 0]

/-- A flag is a byte that is zero or one. -/
def readFlag : List UInt8 → Option (Bool × List UInt8)
  | [] => none
  | byte :: rest =>
    if byte = 0 then some (false, rest) else if byte = 1 then some (true, rest) else none

def ofEdge (e : Edge) : List UInt8 :=
  ofText e.target ++ littleEndian 4 e.kind.index ++ littleEndian 8 e.line

def readEdge (bytes : List UInt8) : Option (Edge × List UInt8) := do
  let (target, rest) ← readText bytes
  let (index, rest) ← readNat 4 rest
  let kind ← EdgeKind.ofIndex? index
  let (line, rest) ← readNat 8 rest
  some (⟨target, kind, line⟩, rest)

def ofClass (c : ClassRecord) : List UInt8 :=
  ofText c.name ++ ofList ofEdge c.edges

def readClass (bytes : List UInt8) : Option (ClassRecord × List UInt8) := do
  let (name, rest) ← readText bytes
  let (edges, rest) ← readList readEdge rest
  some (⟨name, edges⟩, rest)

end Bytes

namespace StoredRecord

def encode (stored : StoredRecord) : List UInt8 :=
  Bytes.ofText stored.path.text ++ Bytes.ofText stored.fingerprint ++
    Bytes.ofFlag stored.countsImports ++ Bytes.ofList Bytes.ofClass stored.classes ++
    Bytes.ofList Bytes.ofEdge stored.imports

/-- Reads a stored form; bytes behind it are ignored. -/
def decode (bytes : List UInt8) : Option StoredRecord := do
  let (path, rest) ← Bytes.readText bytes
  let (fingerprint, rest) ← Bytes.readText rest
  let (countsImports, rest) ← Bytes.readFlag rest
  let (classes, rest) ← Bytes.readList Bytes.readClass rest
  let (imports, _) ← Bytes.readList Bytes.readEdge rest
  some { path := ⟨path⟩, fingerprint, countsImports, classes, imports }

end StoredRecord

end ClassGraph
