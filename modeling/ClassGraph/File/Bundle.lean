import ClassGraph.File.Tree
import ClassGraph.Json.Reader
import ClassGraph.Syntax.Source

namespace ClassGraph.Bundle

def textOf? (value : Json) (key : String) : Option String :=
  (value.get? key).bind Json.string?

def itemsOf (value : Json) (key : String) : List Json :=
  ((value.get? key).bind Json.array?).getD []

/-- The bytes that pairs of hexadecimal digits write. -/
def ofHex : List Char → List UInt8
  | high :: low :: rest =>
    UInt8.ofNat (16 * (Json.hexDigit? high).getD 0 + (Json.hexDigit? low).getD 0) :: ofHex rest
  | _ => []

/-- The bytes of a content. -/
def bytes (content : Json) : ByteArray :=
  match textOf? content "hex" with
  | some digits => ⟨(ofHex digits.toList).toArray⟩
  | none => ((textOf? content "source").getD "").toUTF8

/-- A row of a tree: depth, kind, field, flags, first byte, end, and row. -/
def row? : Json → Option Row
  | .array [depth, kind, field, flags, start, stop, row] => do
    some
      { depth := ← depth.nat?, kind := ← kind.string?, field := ← field.string?
        flags := ← flags.nat?, start := ← start.nat?, stop := ← stop.nat?, row := ← row.nat? }
  | _ => none

/-- The tree of a content. -/
def tree? (content : Json) : Option SyntaxTree := do
  let rows ← ((content.get? "tree").bind Json.array?)
  SyntaxTree.ofRows (bytes content) (← rows.mapM row?)

/-- The grammar that several contents make up. -/
def grammar (contents : List Json) : Grammar :=
  let table := contents.filterMap fun content => (tree? content).map (bytes content, ·)
  fun source => (table.find? (·.1 == source)).map (·.2)

/-- Puts a content at its path. -/
def addFile (tree : FileTree) (content : Json) : FileTree :=
  (tree.install? ⟨(textOf? content "path").getD ""⟩ (bytes content)).getD tree

/-- Puts a link, given with its target, into the tree. -/
def addLink (tree : FileTree) (link : Json) : FileTree :=
  match link with
  | .array [.string path, .string target] => (tree.installLink? ⟨path⟩ target).getD tree
  | _ => tree

/-- A working folder with nothing in it. -/
def emptyTree : FileTree :=
  { root := .folder [("bundle", .folder [])], here := ["bundle"] }

/-- The file tree of a bundle: its folders, its files, then its links. -/
def fileTree (bundle : Json) : FileTree :=
  let folders := ((itemsOf bundle "dirs").filterMap Json.string?).foldl
    (fun tree path => (tree.makeFolders ⟨path⟩).1) emptyTree
  let files := (itemsOf bundle "files").foldl addFile folders
  (itemsOf bundle "links").foldl addLink files

end ClassGraph.Bundle
