import ClassGraph.File.Pathname

namespace ClassGraph

inductive FileNode where
  | file (bytes : ByteArray)
  | link (target : String)
  | folder (entries : List (String × FileNode))
deriving Inhabited

namespace FileNode

def bytes? : FileNode → Option ByteArray
  | file bytes => some bytes
  | _ => none

def entries? : FileNode → Option (List (String × FileNode))
  | folder entries => some entries
  | _ => none

/-- Puts a node under a name, in the place of the one that has the name. -/
def setEntry (name : String) (node : FileNode) : List (String × FileNode) → List (String × FileNode)
  | [] => [(name, node)]
  | entry :: rest => if entry.1 = name then (name, node) :: rest else entry :: setEntry name node rest

theorem lookup_setEntry (name other : String) (node : FileNode)
    (entries : List (String × FileNode)) :
    (setEntry name node entries).lookup other =
      if other = name then some node else entries.lookup other := by
  induction entries with
  | nil => grind [setEntry]
  | cons entry rest ih => grind [setEntry]

/-- The node at a place, given by the names from the root down. -/
def at? (root : FileNode) : List String → Option FileNode
  | [] => some root
  | name :: rest =>
    match root with
    | folder entries =>
      match entries.lookup name with
      | some node => node.at? rest
      | none => none
    | _ => none

/-- Puts a node at a place whose folder exists. -/
def setAt (root : FileNode) (node : FileNode) : List String → FileNode
  | [] => node
  | name :: rest =>
    match root with
    | folder entries =>
      match entries.lookup name with
      | some inner => folder (setEntry name (inner.setAt node rest) entries)
      | none => if rest.isEmpty then folder (setEntry name node entries) else folder entries
    | other => other

/-- Takes the node at a place away. -/
def eraseAt (root : FileNode) : List String → FileNode
  | [] => root
  | [name] =>
    match root with
    | folder entries => folder (entries.filter (·.1 != name))
    | other => other
  | name :: rest =>
    match root with
    | folder entries =>
      match entries.lookup name with
      | some inner => folder (setEntry name (inner.eraseAt rest) entries)
      | none => folder entries
    | other => other

end FileNode

namespace Pathname

/-- The steps of a pathname; a separator at its end asks for a folder, as a dot does. -/
def steps (p : Pathname) : List String :=
  p.segments ++ if p.text.toList.getLast? == some '/' then ["."] else []

/-- Whether a pathname can be followed: it is not empty, has at most 4095 bytes, and none of them is
zero. -/
def isUsable (p : Pathname) : Bool :=
  !p.text.isEmpty && p.text.utf8ByteSize ≤ 4095 && !p.text.toList.contains (Char.ofNat 0)

/-- A path and the folders above it, the path itself first. -/
def ancestry (p : Pathname) : List Pathname :=
  p :: (List.range p.components.length).reverse.map fun n => ofComponents (p.components.take n)

end Pathname

/-- Where a walk along a path ends. -/
inductive Walk where
  /-- At a node that exists. -/
  | found (place : List String)
  /-- In a folder that has no entry of the last name. -/
  | vacant (place : List String)
  /-- In a folder that has no entry of a name on the way. -/
  | missing
  /-- At a link in a folder, with the steps that are left behind it. -/
  | link (place : List String) (target : Pathname) (rest : List String)
  | blocked

namespace FileNode

/-- The longest name of an entry, in bytes. -/
def nameLimit : Nat := 255

/-- Walks from the folder at `place` until the path ends or a link has to be followed. Above the root
is the root. -/
def walk (root : FileNode) (followLast : Bool) (place : List String) : List String → Walk
  | [] => .found place
  | step :: rest =>
    if step = "." then walk root followLast place rest
    else if step = ".." then walk root followLast place.dropLast rest
    else if nameLimit < step.utf8ByteSize then .blocked
    else
      match root.at? (place ++ [step]) with
      | none => if rest.isEmpty then .vacant (place ++ [step]) else .missing
      | some (folder _) => walk root followLast (place ++ [step]) rest
      | some (file _) => if rest.isEmpty then .found (place ++ [step]) else .blocked
      | some (link target) =>
        if rest.isEmpty && !followLast then .found (place ++ [step])
        else .link place ⟨target⟩ rest

/-- Walks on through links, at most `links` of them. -/
def follow (root : FileNode) (followLast : Bool) : Nat → List String → List String → Walk
  | links, place, steps =>
    match links, root.walk followLast place steps with
    | links + 1, .link place target rest =>
      if target.text.isEmpty then .blocked
      else follow root followLast links (if target.isAbsolute then [] else place)
        (target.steps ++ rest)
    | 0, .link _ _ _ => .blocked
    | _, ended => ended

end FileNode

/-- A file system as a process sees it: the folder at its root, and the place of the folder from
which relative paths start. -/
structure FileTree where
  root : FileNode
  here : List String := []
deriving Inhabited

namespace FileTree

/-- How many links a path may lead through. -/
def linkLimit : Nat := 40

/-- The place from which a path starts. -/
def start (tree : FileTree) (path : Pathname) : List String :=
  if path.isAbsolute then [] else tree.here

def locate (tree : FileTree) (followLast : Bool) (path : Pathname) : Walk :=
  if path.isUsable then tree.root.follow followLast linkLimit (tree.start path) path.steps
  else .blocked

/-- The node that a path names, links followed. -/
def node? (tree : FileTree) (path : Pathname) : Option FileNode :=
  match tree.locate true path with
  | .found place => tree.root.at? place
  | _ => none

def read? (tree : FileTree) (path : Pathname) : Option ByteArray :=
  (tree.node? path).bind FileNode.bytes?

/-- Puts a node at a place whose folder exists. -/
def setAt (tree : FileTree) (node : FileNode) (place : List String) : FileTree :=
  { tree with root := tree.root.setAt node place }

/-- Writes a file, which may be new in a folder that exists. -/
def write? (tree : FileTree) (path : Pathname) (bytes : ByteArray) : Option FileTree :=
  match tree.locate true path with
  | .found place =>
    match tree.root.at? place with
    | some (.file _) => some (tree.setAt (.file bytes) place)
    | _ => none
  | .vacant place => some (tree.setAt (.file bytes) place)
  | _ => none

/-- What comes of making one folder. -/
inductive Making where
  | made (tree : FileTree)
  /-- Something is there already. -/
  | taken
  /-- A folder above is missing. -/
  | missing
  | refused

def makeFolder (tree : FileTree) (path : Pathname) : Making :=
  if path.text.isEmpty then .missing
  else match tree.root.follow false linkLimit (tree.start path) path.segments with
    | .vacant place => .made (tree.setAt (.folder []) place)
    | .found _ => .taken
    | .missing => .missing
    | _ => .refused

/-- Whether a path leads to a folder, links followed. -/
def hasFolder (tree : FileTree) (path : Pathname) : Bool :=
  match tree.root.follow true linkLimit (tree.start path) path.segments with
  | .found place => ((tree.root.at? place).bind FileNode.entries?).isSome
  | _ => false

/-- Goes up until a folder is there or can be made. Gives the tree then, and the paths of the folders
that are still missing, the highest first. -/
def climb? (tree : FileTree) : List Pathname → Option (FileTree × List Pathname)
  | [] => some (tree, [])
  | path :: above =>
    match tree.makeFolder path with
    | .made tree => some (tree, [])
    | .taken => if tree.hasFolder path then some (tree, []) else none
    | .missing => (tree.climb? above).map fun (tree, missing) => (tree, missing ++ [path])
    | .refused => none

/-- Makes one folder after another. Tells whether all are there then; those that were made before
one fails stay. -/
def makeEach (tree : FileTree) : List Pathname → FileTree × Bool
  | [] => (tree, true)
  | path :: rest =>
    match tree.makeFolder path with
    | .made tree => tree.makeEach rest
    | .taken => if tree.hasFolder path then tree.makeEach rest else (tree, false)
    | _ => (tree, false)

/-- Makes a folder with all folders above it, and tells whether it is there then. -/
def makeFolders (tree : FileTree) (path : Pathname) : FileTree × Bool :=
  if path.text.isEmpty then (tree, true)
  else if !path.isUsable then (tree, false)
  else match tree.climb? path.ancestry with
    | some (tree, missing) => tree.makeEach missing
    | none => (tree, false)

/-- Makes the folders above a path. -/
def makeFoldersAbove (tree : FileTree) (path : Pathname) : FileTree :=
  (tree.makeFolders path.parent).1

/-- Writes a file, folders above it made. -/
def install? (tree : FileTree) (path : Pathname) (bytes : ByteArray) : Option FileTree :=
  (tree.makeFoldersAbove path).write? path bytes

/-- Puts a link where nothing is, folders above it made. -/
def installLink? (tree : FileTree) (path : Pathname) (target : String) : Option FileTree :=
  let tree := tree.makeFoldersAbove path
  match tree.locate false path with
  | .vacant place => some (tree.setAt (.link target) place)
  | _ => none

/-- Takes the file or link that a path names away. -/
def remove? (tree : FileTree) (path : Pathname) : Option FileTree :=
  match tree.locate false path with
  | .found place =>
    match tree.root.at? place with
    | some (.folder _) | none => none
    | some _ => some { tree with root := tree.root.eraseAt place }
  | _ => none

end FileTree

end ClassGraph
