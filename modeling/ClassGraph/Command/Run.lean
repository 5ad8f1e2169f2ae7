import ClassGraph.Command.Options
import ClassGraph.Json.Reader
import ClassGraph.Report.Analysis

namespace ClassGraph.Command

/-- Why an analysis gives no report. -/
inductive Failure where
  | groupsUnreadable (path : Pathname)
  | groupsInvalid (path : Pathname)
  | outputUnwritable (path : Pathname)
deriving DecidableEq, Repr

def Failure.message : Failure → String
  | groupsUnreadable path => "Error: Failed to read groups file " ++ path.text
  | groupsInvalid path => "Error: Invalid groups file " ++ path.text
  | outputUnwritable path => "Error: Failed to write " ++ path.text

structure Result where
  exit : Nat
  output : String := ""
  error : Option Failure := none
  tree : FileTree

/-- How deep the arrays and objects of a groups file may be nested. -/
def nestingLimit : Nat := 127

/-- The configurations of a group: an array of objects. -/
def configs? (value : Json) : Option (List Config) := do
  let items ← value.array?
  items.mapM Json.object?

/-- The definitions in a groups file: an object of arrays of objects. -/
def definitions? (text : String) : Option (List GroupDefinition) := do
  let value ← Json.read? nestingLimit text
  let members ← value.object?
  members.mapM fun (name, value) => (configs? value).map fun configs => ⟨name, configs⟩

def loadGroups (tree : FileTree) (path : Pathname) : Except Failure (List GroupDefinition) :=
  match (tree.read? path).bind String.fromUTF8? with
  | none => .error (.groupsUnreadable path)
  | some text =>
    match definitions? text with
    | some definitions => .ok definitions
    | none => .error (.groupsInvalid path)

/-- The group definitions that the options ask for. -/
def groupsOf (tree : FileTree) (options : Options) :
    Except Failure (Option (List GroupDefinition)) :=
  match options.groups with
  | none => .ok none
  | some path => (loadGroups tree path).map some

/-- Where records are stored if no directory is given. -/
def standardDirectory : Pathname :=
  ⟨"tmp/layergraph_cache"⟩

/-- An entry of the folder at a path as the cache sees it: a link stands for what it leads to. It is
as good as absent where a file can be made through it, and closed like a folder where none can. -/
def seenEntry (tree : FileTree) (path : Pathname) (entry : String × FileNode) :
    Option (String × FileNode) :=
  match entry.2 with
  | .link _ =>
    match tree.locate true (path.join entry.1) with
    | .found place => (tree.root.at? place).map (entry.1, ·)
    | .vacant _ => none
    | _ => some (entry.1, .folder [])
  | _ => some entry

/-- The tree with the cache directory made, and the directory; there is none if it is not wanted or
cannot be made. -/
def openDirectory (tree : FileTree) (options : Options) : FileTree × CacheDirectory :=
  if options.memoryOnly then (tree, none)
  else
    let path := options.cacheDirectory.getD standardDirectory
    let (tree, made) := tree.makeFolders path
    let entries := if made then (tree.node? path).bind FileNode.entries? else none
    (tree, entries.map (·.filterMap (seenEntry tree path)))

/-- Writes the files of the cache directory into the tree. -/
def closeDirectory (tree : FileTree) (options : Options) (directory : CacheDirectory) : FileTree :=
  let path := options.cacheDirectory.getD standardDirectory
  (directory.getD []).foldl (fun tree (name, node) =>
    match node with
    | .file bytes => (tree.write? (path.join name) bytes).getD tree
    | _ => tree) tree

def render (format : Format) (report : Report) (classification : Option Classification) : String :=
  match format with
  | .json => (report.toJson classification).pretty
  | .dot => report.map.graph.dot

/-- Runs an analysis with given options. -/
def analyze (engine : PatternEngine) (grammar : Grammar) (tree : FileTree) (options : Options) :
    Result :=
  match groupsOf tree options with
  | .error failure => { exit := 1, error := some failure, tree }
  | .ok definitions =>
    let (tree, directory) := openDirectory tree options
    let analyzer : Analyzer := { scanner := { excludes := options.excludes }, directory }
    let (report, after) :=
      analyzer.analyze grammar (tree.reader []) tree options.countsImports options.input
    let tree := closeDirectory tree options after.directory
    let classification := definitions.map (.ofDefinitions engine Registry.standard report.map)
    let text := render options.format report classification
    match options.output with
    | none => { exit := 0, output := text ++ "\n", tree }
    | some path =>
      match tree.write? path text.toUTF8 with
      | some tree => { exit := 0, tree }
      | none => { exit := 1, error := some (.outputUnwritable path), tree }

def versionText : String :=
  "layergraph 0.1.0\n"

/-- Runs the command with its arguments. -/
def run (engine : PatternEngine) (grammar : Grammar) (tree : FileTree) (arguments : List String) :
    Result :=
  match Options.ofArguments engine arguments with
  | .ok options => analyze engine grammar tree options
  | .error .usage => { exit := 2, tree }
  | .error .help => { exit := 0, tree }
  | .error .version => { exit := 0, output := versionText, tree }

end ClassGraph.Command
