import Mathlib.Logic.Relation
import ClassGraph.Pattern.Program
import ClassGraph.Proofs.EntryPaths
import ClassGraph.Proofs.FileShapes

namespace ClassGraph

namespace FileNode

/-- A tree as file systems have it: the entries of a folder have proper names, and no two the same. -/
inductive IsProper : FileNode → Prop
  | file (bytes : ByteArray) : IsProper (.file bytes)
  | link (target : String) : IsProper (.link target)
  | folder {entries : List (String × FileNode)} : (entries.map (·.1)).Nodup →
      (∀ entry ∈ entries, Pathname.IsEntryName entry.1) → (∀ entry ∈ entries, IsProper entry.2) →
      IsProper (.folder entries)

theorem lookup_eq_some_iff {entries : List (String × FileNode)}
    (distinct : (entries.map (·.1)).Nodup) {name : String} {node : FileNode} :
    entries.lookup name = some node ↔ (name, node) ∈ entries := by
  constructor
  · intro found
    obtain ⟨front, back, whole, -⟩ := List.lookup_eq_some_iff.mp found
    rw [whole]
    exact List.mem_append_right front List.mem_cons_self
  · intro member
    obtain ⟨front, back, whole⟩ := List.append_of_mem member
    refine List.lookup_eq_some_iff.mpr ⟨front, back, whole, fun entry inFront => ?_⟩
    rw [whole, List.map_append, List.map_cons, List.nodup_append] at distinct
    have different := distinct.2.2 entry.1 (List.mem_map_of_mem inFront) name List.mem_cons_self
    exact bne_iff_ne.mpr different.symm

@[simp] theorem at?_nil (node : FileNode) : node.at? [] = some node := by
  rw [at?]

@[simp] theorem at?_folder (entries : List (String × FileNode)) (name : String)
    (names : List String) :
    (folder entries).at? (name :: names) = (entries.lookup name).bind (·.at? names) := by
  rw [at?]
  cases entries.lookup name <;> rfl

theorem at?_append (node : FileNode) (front back : List String) :
    node.at? (front ++ back) = (node.at? front).bind (·.at? back) := by
  induction front generalizing node with
  | nil => rw [List.nil_append, at?_nil, Option.bind_some]
  | cons name front ih =>
    cases node with
    | folder entries =>
      rw [List.cons_append, at?_folder, at?_folder, Option.bind_assoc]
      exact congrArg _ (funext fun inner => ih inner)
    | _ => rfl

/-- What lies in a proper tree is proper, and so are the names that lead to it. -/
theorem IsProper.at? {node inner : FileNode} (proper : node.IsProper) {names : List String}
    (there : node.at? names = some inner) :
    inner.IsProper ∧ ∀ name ∈ names, Pathname.IsEntryName name := by
  induction names generalizing node with
  | nil =>
    rw [at?_nil] at there
    cases there
    exact ⟨proper, fun name member => absurd member List.not_mem_nil⟩
  | cons name names ih =>
    cases proper with
    | file bytes => cases there
    | link target => cases there
    | folder distinct named inside =>
      rw [at?_folder] at there
      obtain ⟨child, found, below⟩ := Option.bind_eq_some_iff.mp there
      have member := (lookup_eq_some_iff distinct).mp found
      obtain ⟨properInner, properNames⟩ := ih (inside _ member) below
      exact ⟨properInner, List.forall_mem_cons.mpr ⟨named _ member, properNames⟩⟩

section Enumeration

theorem filesAmong_eq_flatMap (path : Pathname) (entries : List (String × FileNode)) :
    filesAmong path entries = entries.flatMap fun entry => entry.2.files (path.join entry.1) := by
  induction entries with
  | nil => rfl
  | cons entry rest ih => rw [filesAmong, ih, List.flatMap_cons]

/-- The files that are listed are those that stand at some place of the tree. -/
theorem IsProper.mem_files {node : FileNode} (proper : node.IsProper) {path p : Pathname} :
    p ∈ node.files path ↔
      ∃ names bytes, node.at? names = some (.file bytes) ∧ p = path.below names := by
  induction proper generalizing path with
  | file bytes =>
    rw [files, List.mem_singleton]
    constructor
    · rintro rfl
      exact ⟨[], bytes, at?_nil _, rfl⟩
    · rintro ⟨names, bytes', there, rfl⟩
      cases names with
      | nil => rfl
      | cons name names => cases there
  | link target =>
    rw [files]
    constructor
    · exact fun impossible => absurd impossible List.not_mem_nil
    · rintro ⟨names, bytes, there, -⟩
      cases names <;> cases there
  | @folder entries distinct named inside ih =>
    rw [files, filesAmong_eq_flatMap, List.mem_flatMap]
    constructor
    · rintro ⟨⟨name, child⟩, member, listed⟩
      obtain ⟨names, bytes, there, rfl⟩ := (ih _ member).mp listed
      refine ⟨name :: names, bytes, ?_, rfl⟩
      rw [at?_folder, (lookup_eq_some_iff distinct).mpr member, Option.bind_some, there]
    · rintro ⟨names, bytes, there, rfl⟩
      cases names with
      | nil => cases there
      | cons name names =>
        rw [at?_folder] at there
        obtain ⟨child, found, below⟩ := Option.bind_eq_some_iff.mp there
        have member := (lookup_eq_some_iff distinct).mp found
        exact ⟨(name, child), member, (ih _ member).mpr ⟨names, bytes, below, rfl⟩⟩

/-- No path is listed twice, under whatever spelling. -/
theorem IsProper.files_apart {node : FileNode} (proper : node.IsProper) (path : Pathname) :
    (node.files path).Pairwise fun p q => p.key ≠ q.key := by
  induction proper generalizing path with
  | file bytes => exact List.pairwise_singleton _ _
  | link target => exact .nil
  | @folder entries distinct named inside ih =>
    rw [files, filesAmong_eq_flatMap, List.pairwise_flatMap]
    refine ⟨fun entry member => ih entry member _, ?_⟩
    -- Files of two entries differ in the component that stands behind those of the folder.
    have components : ∀ entry ∈ entries, ∀ p ∈ entry.2.files (path.join entry.1),
        ∃ rest, p.components = path.components ++ .entry entry.1 :: rest := by
      intro entry member p listed
      obtain ⟨names, bytes, there, rfl⟩ := (inside entry member).mem_files.mp listed
      have proper := List.forall_mem_cons.mpr ⟨named entry member, ((inside entry member).at? there).2⟩
      exact ⟨_, Pathname.components_below proper path⟩
    refine (List.pairwise_map.mp distinct).imp_of_mem ?_
    intro entry other member member' different p listed q listed' same
    obtain ⟨rest, told⟩ := components entry member p listed
    obtain ⟨rest', told'⟩ := components other member' q listed'
    have equal := Pathname.components_of_key same
    rw [told, told', List.append_cancel_left_eq, List.cons.injEq] at equal
    exact different (Component.entry.inj equal.1)

end Enumeration

section Reordering

/-- One folder of a tree lists its entries in another order. -/
inductive Reorders : FileNode → FileNode → Prop
  | here {entries entries' : List (String × FileNode)} : entries.Perm entries' →
      Reorders (.folder entries) (.folder entries')
  | inside {front back : List (String × FileNode)} {name : String} {node node' : FileNode} :
      Reorders node node' →
      Reorders (.folder (front ++ (name, node) :: back)) (.folder (front ++ (name, node') :: back))

/-- The folders of a tree list their entries in other orders. -/
def Rearranged : FileNode → FileNode → Prop :=
  Relation.ReflTransGen Reorders

theorem Reorders.isProper {a b : FileNode} (reorders : a.Reorders b) (proper : a.IsProper) :
    b.IsProper := by
  induction reorders with
  | here perm =>
    cases proper with
    | folder distinct named inside =>
      exact .folder ((perm.map _).nodup_iff.mp distinct)
        (fun entry member => named entry (perm.mem_iff.mpr member))
        fun entry member => inside entry (perm.mem_iff.mpr member)
  | @inside front back name node node' _ ih =>
    cases proper with
    | folder distinct named entered =>
      have inner := ih (entered (name, node) (by simp))
      have kept : ∀ entry ∈ front ++ (name, node') :: back, entry = (name, node') ∨
          entry ∈ front ++ (name, node) :: back := by
        intro entry member
        simp only [List.mem_append, List.mem_cons] at member ⊢
        tauto
      refine .folder (by simpa using distinct) ?_ ?_
      · intro entry member
        rcases kept entry member with rfl | old
        · exact named (name, node) (by simp)
        · exact named entry old
      · intro entry member
        rcases kept entry member with rfl | old
        · exact inner
        · exact entered entry old

theorem lookup_replaced {front back : List (String × FileNode)} {name : String} (other : String)
    (node : FileNode) : (front ++ (name, node) :: back).lookup other =
      (front.lookup other).or (if other = name then some node else back.lookup other) := by
  rw [List.lookup_append, List.lookup_cons]
  by_cases same : other = name
  · rw [if_pos same, beq_iff_eq.mpr same]
  · rw [if_neg same, beq_eq_false_iff_ne.mpr same]

theorem Reorders.sameFaces {a b : FileNode} (reorders : a.Reorders b) (proper : a.IsProper) :
    a.SameFaces b := by
  induction reorders with
  | @here entries entries' perm =>
    cases proper with
    | folder distinct named inside =>
      -- No name occurs twice, so the place of an entry in the list does not matter to a look-up.
      have distinct' := (perm.map (·.1)).nodup_iff.mp distinct
      have found : ∀ name, entries.lookup name = entries'.lookup name := by
        intro name
        refine Option.ext fun node => ?_
        rw [lookup_eq_some_iff distinct, lookup_eq_some_iff distinct', perm.mem_iff]
      intro place
      cases place with
      | nil => rfl
      | cons name names => rw [at?_folder, at?_folder, found]
  | @inside front back name node node' _ ih =>
    cases proper with
    | folder distinct named entered =>
      have inner := ih (entered (name, node) (by simp))
      intro place
      cases place with
      | nil => rfl
      | cons other names =>
        rw [at?_folder, at?_folder, lookup_replaced, lookup_replaced]
        cases front.lookup other with
        | some found => rfl
        | none =>
          rw [Option.none_or, Option.none_or]
          split
          · exact inner names
          · rfl

theorem Rearranged.sameFaces {a b : FileNode} (rearranged : a.Rearranged b) (proper : a.IsProper) :
    b.IsProper ∧ a.SameFaces b := by
  induction rearranged with
  | refl => exact ⟨proper, fun _ => rfl⟩
  | tail _ reorders ih =>
    obtain ⟨properMiddle, same⟩ := ih
    exact ⟨reorders.isProper properMiddle,
      fun place => (same place).trans (reorders.sameFaces properMiddle place)⟩

end Reordering

section Roots

theorem SameFaces.at? {a b : FileNode} (same : a.SameFaces b) (place : List String) :
    Option.Rel SameFaces (a.at? place) (b.at? place) := by
  have here := same place
  cases inFirst : a.at? place with
  | none =>
    rw [inFirst] at here
    rw [Option.map_eq_none_iff.mp here.symm]
    exact .none
  | some node =>
    rw [inFirst] at here
    obtain ⟨other, inSecond, -⟩ := Option.map_eq_some_iff.mp here.symm
    rw [inSecond]
    refine .some fun names => ?_
    have below := same (place ++ names)
    rwa [at?_append, at?_append, inFirst, inSecond] at below

theorem SameFaces.node? {a b : FileNode} (same : a.SameFaces b) (here : List String)
    (path : Pathname) :
    Option.Rel SameFaces ((FileTree.mk a here).node? path) ((FileTree.mk b here).node? path) := by
  rw [FileTree.node?, FileTree.node?, locate_congr same]
  cases (FileTree.mk b here).locate true path with
  | found place => exact same.at? place
  | _ => exact .none

/-- Nodes that look the same are of one sort. -/
theorem SameFaces.sort {a b : FileNode} (same : a.SameFaces b) :
    (∃ bytes bytes', a = .file bytes ∧ b = .file bytes') ∨
      (∃ target, a = .link target ∧ b = .link target) ∨
      ∃ entries entries', a = .folder entries ∧ b = .folder entries' := by
  have faces : a.face = b.face := by
    have top := same []
    rwa [at?_nil, at?_nil, Option.map_some, Option.map_some, Option.some.injEq] at top
  cases a <;> cases b <;> cases faces <;> simp

theorem SameFaces.exists_file {a b : FileNode} (same : a.SameFaces b) {place : List String}
    {bytes : ByteArray} (there : a.at? place = some (.file bytes)) :
    ∃ bytes', b.at? place = some (.file bytes') := by
  have here := same place
  rw [there] at here
  obtain ⟨node, found, face⟩ := Option.map_eq_some_iff.mp here.symm
  cases node with
  | file bytes' => exact ⟨bytes', found⟩
  | _ => cases face

theorem SameFaces.scanRoot? {a b : FileNode} (same : a.SameFaces b) (here : List String)
    (path : Pathname) :
    Option.Rel SameFaces ((FileTree.mk a here).scanRoot? path)
      ((FileTree.mk b here).scanRoot? path) := by
  rw [FileTree.scanRoot?, FileTree.scanRoot?, locate_congr same]
  cases (FileTree.mk b here).locate false path with
  | found place =>
    have atPlace := same.at? place
    have atEnd := same.node? here path
    dsimp only
    generalize a.at? place = first at *
    generalize b.at? place = second at *
    generalize (FileTree.mk a here).node? path = firstEnd at *
    generalize (FileTree.mk b here).node? path = secondEnd at *
    cases atPlace with
    | none => exact .none
    | some here =>
      rcases here.sort with ⟨_, _, rfl, rfl⟩ | ⟨_, rfl, rfl⟩ | ⟨_, _, rfl, rfl⟩
      · exact .some here
      · cases atEnd with
        | none => exact .some here
        | some there =>
          rcases there.sort with ⟨_, _, rfl, rfl⟩ | ⟨_, rfl, rfl⟩ | ⟨_, _, rfl, rfl⟩
          · exact .some here
          · exact .some here
          · exact .some there
      · exact .some here
  | _ => exact .none

/-- A walk that does not follow a link at its end differs only if there is one. -/
theorem walk_unfollowed (root : FileNode) (place steps : List String) :
    root.walk false place steps = root.walk true place steps ∨
      ∃ last target, root.walk false place steps = .found last ∧
        root.at? last = some (.link target) := by
  induction steps generalizing place with
  | nil => exact .inl rfl
  | cons step rest ih =>
    simp only [walk]
    split
    · exact ih place
    · split
      · exact ih place.dropLast
      · split
        · exact .inl rfl
        · cases there : root.at? (place ++ [step]) with
          | none => exact .inl rfl
          | some node =>
            cases node with
            | file bytes => exact .inl rfl
            | folder entries => exact ih (place ++ [step])
            | link target =>
              -- Only a link that is the last step is treated in two ways.
              cases rest with
              | nil => exact .inr ⟨place ++ [step], target, rfl, there⟩
              | cons next rest => exact .inl rfl

theorem follow_unfollowed (root : FileNode) (links : Nat) (place steps : List String) :
    root.follow false links place steps = root.follow true links place steps ∨
      ∃ last target, root.follow false links place steps = .found last ∧
        root.at? last = some (.link target) := by
  induction links generalizing place steps with
  | zero =>
    unfold follow
    rcases root.walk_unfollowed place steps with same | ⟨last, target, ended, isLink⟩
    · rw [same]
      cases root.walk true place steps <;> exact .inl rfl
    · rw [ended]
      exact .inr ⟨last, target, rfl, isLink⟩
  | succ links ih =>
    unfold follow
    rcases root.walk_unfollowed place steps with same | ⟨last, target, ended, isLink⟩
    · rw [same]
      cases root.walk true place steps with
      | link place target rest =>
        dsimp only
        split
        · exact .inl rfl
        · exact ih _ _
      | _ => exact .inl rfl
    · rw [ended]
      exact .inr ⟨last, target, rfl, isLink⟩

end Roots

end FileNode

namespace FileTree

variable {tree : FileTree} {path : Pathname}

theorem exists_at?_of_node? {node : FileNode} (found : tree.node? path = some node) :
    ∃ place, tree.root.at? place = some node := by
  rw [node?] at found
  split at found
  · exact ⟨_, found⟩
  · cases found

/-- A scan starts from a node of the tree. -/
theorem exists_at?_of_scanRoot? {node : FileNode} (start : tree.scanRoot? path = some node) :
    ∃ place, tree.root.at? place = some node := by
  rw [scanRoot?] at start
  split at start
  · rename_i place _
    split at start
    · rename_i target atPlace
      split at start
      · rename_i entries found
        cases start
        exact exists_at?_of_node? found
      · cases start
        exact ⟨place, atPlace⟩
    · exact ⟨place, start⟩
  · cases start

/-- A path that leads to a folder, links followed, is scanned from that folder. -/
theorem scanRoot?_of_folder {entries : List (String × FileNode)}
    (found : tree.node? path = some (.folder entries)) :
    tree.scanRoot? path = some (.folder entries) := by
  have located : tree.locate false path = tree.locate true path ∨
      ∃ last target, tree.locate false path = .found last ∧
        tree.root.at? last = some (.link target) := by
    rw [locate, locate]
    split
    · exact tree.root.follow_unfollowed linkLimit (tree.start path) path.steps
    · exact .inl rfl
  rw [scanRoot?]
  rcases located with same | ⟨last, target, ended, isLink⟩
  · rw [same]
    have atEnd := found
    rw [node?] at atEnd
    cases ended : tree.locate true path with
    | found place =>
      rw [ended] at atEnd
      dsimp only at atEnd ⊢
      rw [atEnd]
    | _ =>
      rw [ended] at atEnd
      cases atEnd
  · simp only [ended, isLink, found]

end FileTree

namespace Scanner

/-- A path is accepted if the name of its file ends in a configured extension and nothing excludes
it. -/
theorem accepts_iff (configured : List String) (excludes : List (String → Bool)) {path : Pathname}
    {name : String} (named : path.fileName? = some name) :
    ({ ofExtensions configured with excludes } : Scanner).accepts path = true ↔
      (∃ text ∈ configured, ∃ extension, Pathname.HasExtension name extension ∧
        Text.sameIgnoringCase (extensionOf text) extension = true) ∧
      ∀ excluded ∈ excludes, excluded path.text = false := by
  have wanted : path.extension?.any (fun extension =>
      (configured.map extensionOf).any (Text.sameIgnoringCase · extension)) = true ↔
        ∃ text ∈ configured, ∃ extension, Pathname.HasExtension name extension ∧
          Text.sameIgnoringCase (extensionOf text) extension = true := by
    rw [Option.any_eq_true]
    simp only [List.any_map, List.any_eq_true, Function.comp_apply,
      Pathname.extension?_eq_some_iff named]
    constructor
    · rintro ⟨extension, has, text, member, same⟩
      exact ⟨text, member, extension, has, same⟩
    · rintro ⟨text, member, extension, has, same⟩
      exact ⟨extension, has, text, member, same⟩
  have kept : (!excludes.any (· path.text)) = true ↔
      ∀ excluded ∈ excludes, excluded path.text = false := by
    simp only [Bool.not_eq_true', List.any_eq_false, Bool.not_eq_true]
  rw [accepts, Bool.and_eq_true]
  exact and_congr wanted kept

theorem mem_filesBelow (scanner : Scanner) {node : FileNode} (proper : node.IsProper)
    {path p : Pathname} : p ∈ scanner.filesBelow path node ↔
      ∃ names bytes, node.at? names = some (.file bytes) ∧ p = path.below names ∧
        scanner.accepts p = true := by
  rw [filesBelow, List.mem_mergeSort, List.mem_filter, proper.mem_files]
  constructor
  · rintro ⟨⟨names, bytes, there, joined⟩, accepted⟩
    exact ⟨names, bytes, there, joined, accepted⟩
  · rintro ⟨names, bytes, there, joined, accepted⟩
    exact ⟨⟨names, bytes, there, joined⟩, accepted⟩

theorem filesBelow_increasing (scanner : Scanner) {node : FileNode} (proper : node.IsProper)
    (path : Pathname) : (scanner.filesBelow path node).Pairwise (·.key < ·.key) :=
  increasing_mergeSort Pathname.before_iff ((proper.files_apart path).filter _)

theorem filesBelow_eq_of_perm (scanner : Scanner) {node : FileNode} {path : Pathname}
    {paths : List Pathname} (perm : ((node.files path).filter scanner.accepts).Perm paths)
    (increasing : paths.Pairwise fun p q => p.before q = true) :
    scanner.filesBelow path node = paths :=
  mergeSort_eq_of_perm Pathname.before_iff perm (increasing.imp (Pathname.before_iff _ _).mp)

/-- Files are found by what is seen in the tree. -/
theorem filesBelow_congr (scanner : Scanner) {a b : FileNode} (same : a.SameFaces b)
    (first : a.IsProper) (second : b.IsProper) (path : Pathname) :
    scanner.filesBelow path a = scanner.filesBelow path b := by
  have listed : ∀ {m n : FileNode}, m.SameFaces n → m.IsProper → n.IsProper → ∀ p,
      p ∈ scanner.filesBelow path m → p ∈ scanner.filesBelow path n := by
    intro m n same properFirst properSecond p member
    obtain ⟨names, bytes, there, joined⟩ := (scanner.mem_filesBelow properFirst).mp member
    obtain ⟨bytes', there'⟩ := same.exists_file there
    exact (scanner.mem_filesBelow properSecond).mpr ⟨names, bytes', there', joined⟩
  have nodup : ∀ {n : FileNode}, n.IsProper → (scanner.filesBelow path n).Nodup := fun proper =>
    (scanner.filesBelow_increasing proper path).imp fun less => ne_of_apply_ne _ less.ne
  have perm : (scanner.filesBelow path a).Perm (scanner.filesBelow path b) :=
    (List.perm_ext_iff_of_nodup (nodup first) (nodup second)).mpr fun p =>
      ⟨listed same first second p, listed (fun place => (same place).symm) second first p⟩
  exact mergeSort_eq_of_perm Pathname.before_iff ((List.mergeSort_perm _ _).symm.trans perm)
    (scanner.filesBelow_increasing second path)

/-- A scan sees nothing of the order in which folders list their entries. -/
theorem scan_congr (scanner : Scanner) {a b : FileNode} (same : a.SameFaces b) (first : a.IsProper)
    (second : b.IsProper) (here : List String) (path : Pathname) :
    scanner.scan ⟨a, here⟩ path = scanner.scan ⟨b, here⟩ path := by
  have start := same.scanRoot? here path
  rw [scan, scan]
  cases inFirst : (FileTree.mk a here).scanRoot? path with
  | none =>
    rw [inFirst] at start
    cases inSecond : (FileTree.mk b here).scanRoot? path with
    | none => rfl
    | some node => cases inSecond ▸ start
  | some node =>
    rw [inFirst] at start
    cases inSecond : (FileTree.mk b here).scanRoot? path with
    | none => cases inSecond ▸ start
    | some other =>
      obtain ⟨place, there⟩ := FileTree.exists_at?_of_scanRoot? inFirst
      obtain ⟨place', there'⟩ := FileTree.exists_at?_of_scanRoot? inSecond
      rw [inSecond] at start
      cases start with
      | some same =>
        exact scanner.filesBelow_congr same (first.at? there).1 (second.at? there').1 path

theorem scan_increasing (scanner : Scanner) {tree : FileTree} (proper : tree.root.IsProper)
    (path : Pathname) : (scanner.scan tree path).Pairwise (·.key < ·.key) := by
  unfold scan
  split
  · rename_i start
    obtain ⟨place, there⟩ := FileTree.exists_at?_of_scanRoot? start
    exact scanner.filesBelow_increasing (proper.at? there).1 path
  · exact .nil

/-- No file is listed twice in a scan, under whatever spelling. -/
theorem scan_apart (scanner : Scanner) {tree : FileTree} (proper : tree.root.IsProper)
    (path : Pathname) : (scanner.scan tree path).Pairwise fun p q => p.same q = false := by
  refine (scanner.scan_increasing proper path).imp fun {p q} less => ?_
  refine Bool.eq_false_iff.mpr fun same => ?_
  rw [Pathname.key, Pathname.key, Pathname.same_iff.mp same] at less
  exact lt_irrefl _ less

theorem precedes_of_increasing {paths : List Pathname} (increasing : paths.Pairwise (·.key < ·.key)) :
    paths.Pairwise Pathname.Precedes :=
  increasing.imp fun less => Pathname.precedes_of_before ((Pathname.before_iff _ _).mpr less)

/-- Below a folder the files are listed whose name ends in a configured extension and that nothing
excludes. -/
theorem mem_filesBelow_folder (configured : List String) (excludes : List (String → Bool))
    {entries : List (String × FileNode)} (proper : (FileNode.folder entries).IsProper)
    (root path : Pathname) :
    path ∈ ({ ofExtensions configured with excludes } : Scanner).filesBelow root (.folder entries) ↔
      ∃ names name bytes,
        (FileNode.folder entries).at? (names ++ [name]) = some (.file bytes) ∧
        path = root.below (names ++ [name]) ∧
        (∃ text ∈ configured, ∃ extension, Pathname.HasExtension name extension ∧
          Text.sameIgnoringCase (extensionOf text) extension = true) ∧
        ∀ excluded ∈ excludes, excluded path.text = false := by
  have named : ∀ names name bytes,
      (FileNode.folder entries).at? (names ++ [name]) = some (.file bytes) →
      (root.below (names ++ [name])).fileName? = some name :=
    fun names name bytes there => Pathname.fileName?_below (proper.at? there).2 root
  rw [mem_filesBelow _ proper]
  constructor
  · rintro ⟨names, bytes, there, rfl, accepted⟩
    rcases List.eq_nil_or_concat' names with rfl | ⟨front, name, rfl⟩
    · cases there
    · exact ⟨front, name, bytes, there, rfl,
        (accepts_iff configured excludes (named front name bytes there)).mp accepted⟩
  · rintro ⟨names, name, bytes, there, rfl, wanted⟩
    exact ⟨names ++ [name], bytes, there, rfl,
      (accepts_iff configured excludes (named names name bytes there)).mpr wanted⟩

/-- Below a folder, whatever its path is, a scanner lists the same files in whatever order the folders
list their entries. The paths increase, and they are those of the regular files, reached through
folders only, whose name ends in one of the configured extensions, the case of ASCII letters apart,
and which no exclusion matches. A scan of a file system, from an absolute or a relative path, does
not depend on the order of entries either, increases, and lists what is below the folder to which
its path leads. -/
theorem scan_exact (root : Pathname) (configured : List String) (excludes : List (String → Bool)) :
    let scanner : Scanner := { ofExtensions configured with excludes }
    (∀ entries, (FileNode.folder entries).IsProper →
      (∀ other, (FileNode.folder entries).Rearranged other →
        scanner.filesBelow root other = scanner.filesBelow root (.folder entries)) ∧
      (scanner.filesBelow root (.folder entries)).Pairwise Pathname.Precedes ∧
      ∀ path, path ∈ scanner.filesBelow root (.folder entries) ↔ ∃ names name bytes,
        (FileNode.folder entries).at? (names ++ [name]) = some (.file bytes) ∧
        path = root.below (names ++ [name]) ∧
        (∃ text ∈ configured, ∃ extension, Pathname.HasExtension name extension ∧
          Text.sameIgnoringCase (extensionOf text) extension = true) ∧
        ∀ excluded ∈ excludes, excluded path.text = false) ∧
    ∀ tree : FileTree, tree.root.IsProper →
      (∀ other, tree.root.Rearranged other →
        scanner.scan { tree with root := other } root = scanner.scan tree root) ∧
      (scanner.scan tree root).Pairwise Pathname.Precedes ∧
      ∀ entries, tree.node? root = some (.folder entries) →
        (FileNode.folder entries).IsProper ∧
        scanner.scan tree root = scanner.filesBelow root (.folder entries) := by
  intro scanner
  refine ⟨fun entries proper => ⟨?_, ?_, ?_⟩, fun tree proper => ⟨?_, ?_, ?_⟩⟩
  · intro other rearranged
    obtain ⟨proper', same⟩ := rearranged.sameFaces proper
    exact (scanner.filesBelow_congr same proper proper' root).symm
  · exact precedes_of_increasing (scanner.filesBelow_increasing proper root)
  · exact mem_filesBelow_folder configured excludes proper root
  · intro other rearranged
    obtain ⟨proper', same⟩ := rearranged.sameFaces proper
    exact (scanner.scan_congr same proper proper' tree.here root).symm
  · exact precedes_of_increasing (scanner.scan_increasing proper root)
  · intro entries found
    obtain ⟨place, there⟩ := FileTree.exists_at?_of_node? found
    refine ⟨(proper.at? there).1, ?_⟩
    rw [scan, FileTree.scanRoot?_of_folder found]

/-- A folder with a file and a folder of which the one name continues the other, a link, an excluded
folder, and files without a wanted extension. -/
def sampleEntries : List (String × FileNode) :=
  [("a.php", .file ⟨#[]⟩),
   ("a", .folder [("b.PHP", .file ⟨#[]⟩), ("notes.txt", .file ⟨#[]⟩), (".php", .file ⟨#[]⟩)]),
   ("copy.php", .link "a.php"),
   ("vendor", .folder [("v.php", .file ⟨#[]⟩)])]

theorem sampleEntries_proper : (FileNode.folder [("r", .folder sampleEntries)]).IsProper := by
  have file : (FileNode.file ⟨#[]⟩).IsProper := .file _
  have inner : (FileNode.folder
      [("b.PHP", .file ⟨#[]⟩), ("notes.txt", .file ⟨#[]⟩), (".php", .file ⟨#[]⟩)]).IsProper :=
    .folder (by decide) (by simp [Pathname.IsEntryName]) (by simp [file])
  have vendor : (FileNode.folder [("v.php", .file ⟨#[]⟩)]).IsProper :=
    .folder (by decide) (by simp [Pathname.IsEntryName]) (by simp [file])
  have entries : (FileNode.folder sampleEntries).IsProper :=
    .folder (by decide) (by simp [sampleEntries, Pathname.IsEntryName])
      (by simp [sampleEntries, file, inner, vendor, FileNode.IsProper.link])
  exact .folder (by decide) (by simp [Pathname.IsEntryName]) (by simp [entries])

/-- The working folder is another one than the root of the scan, which is given by an absolute path. -/
theorem scan_exact_sampleEntries :
    let tree : FileTree := { root := .folder [("r", .folder sampleEntries)], here := ["r", "a"] }
    let relisted := FileNode.folder [("r", .folder sampleEntries.reverse)]
    let scanner : Scanner :=
      { ofExtensions [".php"] with excludes := [(Pattern.text "/vendor/".toList).search] }
    tree.root.IsProper ∧ tree.root.Rearranged relisted ∧
      tree.node? ⟨"/r"⟩ = some (.folder sampleEntries) ∧
      scanner.scan { tree with root := relisted } ⟨"/r"⟩ = [⟨"/r/a/b.PHP"⟩, ⟨"/r/a.php"⟩] ∧
      ∃ names name bytes,
        (FileNode.folder sampleEntries).at? (names ++ [name]) = some (.file bytes) ∧
        (⟨"/r/a/b.PHP"⟩ : Pathname) = (⟨"/r"⟩ : Pathname).below (names ++ [name]) ∧
        ∃ extension, Pathname.HasExtension name extension := by
  intro tree relisted scanner
  have rearranged : tree.root.Rearranged relisted :=
    .single (@FileNode.Reorders.inside [] [] "r" _ _ (.here (List.reverse_perm _).symm))
  have found : tree.node? ⟨"/r"⟩ = some (.folder sampleEntries) := by rfl
  obtain ⟨below, scans⟩ := scan_exact ⟨"/r"⟩ [".php"] [(Pattern.text "/vendor/".toList).search]
  obtain ⟨same, -, leads⟩ := scans tree sampleEntries_proper
  obtain ⟨proper, scanned⟩ := leads sampleEntries found
  have listed : scanner.filesBelow ⟨"/r"⟩ (.folder sampleEntries) =
      [⟨"/r/a/b.PHP"⟩, ⟨"/r/a.php"⟩] :=
    scanner.filesBelow_eq_of_perm (by decide +kernel) (by decide +kernel)
  obtain ⟨names, name, bytes, there, joined, ⟨-, -, extension, has, -⟩, -⟩ :=
    ((below sampleEntries proper).2.2 ⟨"/r/a/b.PHP"⟩).mp (listed ▸ List.mem_cons_self)
  exact ⟨sampleEntries_proper, rearranged, found,
    (same relisted rearranged).trans (scanned.trans listed), names, name, bytes, there, joined,
    extension, has⟩

end Scanner

end ClassGraph
