import ClassGraph.File.Tree

namespace ClassGraph

namespace FileNode

mutual

/-- The paths of the regular files at and below a node that has a path. -/
def files (path : Pathname) : FileNode → List Pathname
  | file _ => [path]
  | link _ => []
  | folder entries => filesAmong path entries

def filesAmong (path : Pathname) : List (String × FileNode) → List Pathname
  | [] => []
  | (name, node) :: rest => files (path.join name) node ++ filesAmong path rest

end

end FileNode

/-- The node that a scan starts from; a link to a folder stands for the folder. -/
def FileTree.scanRoot? (tree : FileTree) (path : Pathname) : Option FileNode :=
  match tree.locate false path with
  | .found place =>
    match tree.root.at? place with
    | some (.link target) =>
      match tree.node? path with
      | some (.folder entries) => some (.folder entries)
      | _ => some (.link target)
    | node => node
  | _ => none

structure Scanner where
  extensions : List String := ["php"]
  /-- Tests of path texts: what one of them accepts is left out. -/
  excludes : List (String → Bool) := []
deriving Inhabited

namespace Scanner

/-- An extension as it is configured, without leading dots. -/
def extensionOf (configured : String) : String :=
  String.ofList (configured.toList.dropWhile (· == '.'))

def ofExtensions (configured : List String) : Scanner :=
  { extensions := configured.map extensionOf }

def accepts (scanner : Scanner) (path : Pathname) : Bool :=
  (path.extension?.any fun extension =>
    scanner.extensions.any (Text.sameIgnoringCase · extension)) &&
    !scanner.excludes.any (· path.text)

/-- The source files below a node that has a path. -/
def filesBelow (scanner : Scanner) (path : Pathname) (node : FileNode) : List Pathname :=
  ((node.files path).filter scanner.accepts).mergeSort fun p q => !q.before p

/-- The source files below a path of a tree; none if the path names nothing. -/
def scan (scanner : Scanner) (tree : FileTree) (path : Pathname) : List Pathname :=
  match tree.scanRoot? path with
  | some node => scanner.filesBelow path node
  | none => []

end Scanner

end ClassGraph
