import ClassGraph.File.Scanner

namespace ClassGraph

namespace FileNode

mutual

/-- A tree without the contents of its files. -/
def shape : FileNode → FileNode
  | file _ => file ⟨#[]⟩
  | link target => link target
  | folder entries => folder (shapes entries)

def shapes : List (String × FileNode) → List (String × FileNode)
  | [] => []
  | (name, node) :: rest => (name, shape node) :: shapes rest

end

theorem lookup_shapes (entries : List (String × FileNode)) (name : String) :
    (shapes entries).lookup name = (entries.lookup name).map shape := by
  induction entries with
  | nil => rfl
  | cons entry rest ih =>
    obtain ⟨other, node⟩ := entry
    rw [shapes, List.lookup_cons, List.lookup_cons, ih]
    cases name == other <;> rfl

theorem at?_shape (root : FileNode) (place : List String) :
    root.shape.at? place = (root.at? place).map shape := by
  induction place generalizing root with
  | nil => rw [at?, at?, Option.map_some]
  | cons name rest ih =>
    cases root with
    | file bytes => rfl
    | link target => rfl
    | folder entries =>
      simp only [shape, at?, lookup_shapes]
      cases entries.lookup name with
      | none => rfl
      | some node => exact ih node

section Faces

/-- What is seen of a node without a look into it. -/
def face : FileNode → FileNode
  | file _ => file ⟨#[]⟩
  | link target => link target
  | folder _ => folder []

/-- The same is seen at every place of two trees. -/
def SameFaces (a b : FileNode) : Prop :=
  ∀ place, (a.at? place).map face = (b.at? place).map face

variable {a b : FileNode}

theorem walk_congr (same : a.SameFaces b) (followLast : Bool) (place steps : List String) :
    a.walk followLast place steps = b.walk followLast place steps := by
  induction steps generalizing place with
  | nil => rfl
  | cons step rest ih =>
    have here := same (place ++ [step])
    simp only [walk, ih]
    cases inFirst : a.at? (place ++ [step]) with
    | none =>
      rw [inFirst] at here
      rw [Option.map_eq_none_iff.mp here.symm]
    | some node =>
      rw [inFirst] at here
      obtain ⟨other, inSecond, sameFace⟩ := Option.map_eq_some_iff.mp here.symm
      rw [inSecond]
      cases node <;> cases other <;> cases sameFace <;> rfl

theorem follow_congr (same : a.SameFaces b) (followLast : Bool) (links : Nat)
    (place steps : List String) :
    a.follow followLast links place steps = b.follow followLast links place steps := by
  induction links generalizing place steps with
  | zero =>
    unfold follow
    rw [walk_congr same]
    cases b.walk followLast place steps <;> rfl
  | succ links ih =>
    unfold follow
    rw [walk_congr same]
    cases b.walk followLast place steps with
    | link place target rest => simp only [ih]
    | _ => rfl

theorem locate_congr (same : a.SameFaces b) (here : List String) (followLast : Bool)
    (path : Pathname) : (FileTree.mk a here).locate followLast path =
      (FileTree.mk b here).locate followLast path := by
  simp only [FileTree.locate, follow_congr same, FileTree.start]

end Faces

theorem sameFaces_shape (root : FileNode) : root.shape.SameFaces root := by
  intro place
  rw [at?_shape, Option.map_map]
  refine congrArg (Option.map · _) (funext fun node => ?_)
  cases node <;> rfl

mutual

theorem files_shape (path : Pathname) : ∀ node : FileNode, node.shape.files path = node.files path
  | file _ => rfl
  | link _ => rfl
  | folder entries => by
    rw [shape, files, files]
    exact filesAmong_shapes path entries

theorem filesAmong_shapes (path : Pathname) :
    ∀ entries, filesAmong path (shapes entries) = filesAmong path entries
  | [] => rfl
  | (name, node) :: rest => by
    rw [shapes, filesAmong, filesAmong, files_shape (path.join name) node,
      filesAmong_shapes path rest]

end

end FileNode

namespace FileTree

/-- A file system without the contents of its files. -/
def shape (tree : FileTree) : FileTree :=
  { tree with root := tree.root.shape }

theorem locate_shape (tree : FileTree) (followLast : Bool) (path : Pathname) :
    tree.shape.locate followLast path = tree.locate followLast path :=
  FileNode.locate_congr tree.root.sameFaces_shape tree.here followLast path

theorem node?_shape (tree : FileTree) (path : Pathname) :
    tree.shape.node? path = (tree.node? path).map FileNode.shape := by
  simp only [node?, locate_shape]
  cases tree.locate true path with
  | found place => exact tree.root.at?_shape place
  | _ => rfl

theorem scanRoot?_shape (tree : FileTree) (path : Pathname) :
    tree.shape.scanRoot? path = (tree.scanRoot? path).map FileNode.shape := by
  simp only [scanRoot?, locate_shape, node?_shape]
  cases tree.locate false path with
  | found place =>
    simp only [shape, FileNode.at?_shape]
    cases tree.root.at? place with
    | none => rfl
    | some node =>
      cases node with
      | file bytes => rfl
      | folder entries => rfl
      | link target =>
        cases tree.node? path with
        | none => rfl
        | some node => cases node <;> rfl
  | _ => rfl

end FileTree

/-- A scan sees nothing of the contents of files. -/
theorem Scanner.scan_shape (scanner : Scanner) (tree : FileTree) (root : Pathname) :
    scanner.scan tree.shape root = scanner.scan tree root := by
  simp only [scan, FileTree.scanRoot?_shape]
  cases tree.scanRoot? root with
  | none => rfl
  | some node => simp only [Option.map_some, filesBelow, FileNode.files_shape]

namespace FileNode

theorem shapes_setEntry {name : String} {inner node : FileNode}
    {entries : List (String × FileNode)} (found : entries.lookup name = some inner)
    (same : node.shape = inner.shape) : shapes (setEntry name node entries) = shapes entries := by
  induction entries with
  | nil => cases found
  | cons entry rest ih =>
    obtain ⟨other, first⟩ := entry
    rw [List.lookup_cons] at found
    by_cases isHere : other = name
    · subst isHere
      simp only [beq_self_eq_true, Option.some.injEq] at found
      simp only [setEntry, if_true, shapes, same, found]
    · have passed : (name == other) = false := beq_false_of_ne (Ne.symm isHere)
      rw [passed] at found
      simp only [setEntry, if_neg isHere, shapes, ih found]

/-- A file that gets another content keeps the shape. -/
theorem shape_setAt {root : FileNode} {place : List String} {old : ByteArray}
    (there : root.at? place = some (file old)) (new : ByteArray) :
    (root.setAt (file new) place).shape = root.shape := by
  induction place generalizing root with
  | nil =>
    cases Option.some.inj there
    rfl
  | cons name rest ih =>
    cases root with
    | file bytes => cases there
    | link target => cases there
    | folder entries =>
      simp only [at?] at there
      cases found : entries.lookup name with
      | none =>
        rw [found] at there
        cases there
      | some inner =>
        rw [found] at there
        simp only [setAt, found, shape]
        rw [shapes_setEntry found (ih there)]

/-- Other places keep their contents. -/
theorem bytes?_setAt_of_ne {root : FileNode} {place other : List String} {old : ByteArray}
    (there : root.at? place = some (file old)) (new : ByteArray) (different : other ≠ place) :
    ((root.setAt (file new) place).at? other).bind bytes? = (root.at? other).bind bytes? := by
  induction place generalizing root other with
  | nil =>
    cases Option.some.inj there
    cases other with
    | nil => exact (different rfl).elim
    | cons name rest => rfl
  | cons name rest ih =>
    cases root with
    | file bytes => cases there
    | link target => cases there
    | folder entries =>
      simp only [at?] at there
      cases found : entries.lookup name with
      | none =>
        rw [found] at there
        cases there
      | some inner =>
        rw [found] at there
        cases other with
        | nil => simp only [setAt, found, at?, Option.bind_some, bytes?]
        | cons first later =>
          simp only [setAt, found, at?, lookup_setEntry]
          by_cases same : first = name
          · subst same
            simp only [if_true, found]
            exact ih there fun equal => different (congrArg _ equal)
          · simp only [if_neg same]

end FileNode

namespace FileTree

variable {tree : FileTree} {place : List String} {old : ByteArray}
  (there : tree.root.at? place = some (.file old)) (new : ByteArray)
include there

theorem shape_setAt : (tree.setAt (.file new) place).shape = tree.shape := by
  simp only [shape, setAt, FileNode.shape_setAt there]

/-- A path that does not lead to the changed file is read as before. -/
theorem read?_setAt {path : Pathname} (elsewhere : tree.locate true path ≠ .found place) :
    (tree.setAt (.file new) place).read? path = tree.read? path := by
  have located : (tree.setAt (.file new) place).locate true path = tree.locate true path := by
    rw [← locate_shape, shape_setAt there, locate_shape]
  rw [read?, read?, node?, node?, located]
  cases found : tree.locate true path with
  | found other =>
    refine FileNode.bytes?_setAt_of_ne there new ?_
    rintro rfl
    exact elsewhere found
  | _ => rfl

end FileTree

end ClassGraph
