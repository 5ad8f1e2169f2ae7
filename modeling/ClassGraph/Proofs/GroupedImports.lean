import ClassGraph.Proofs.Namespaces
import ClassGraph.Proofs.TypeGrammar

namespace ClassGraph

/-- A name without backslashes around it. -/
structure BareName where
  text : String
  nonempty : text ≠ ""
  first : ∀ c ∈ text.toList.head?, isBackslash c = false
  last : ∀ c ∈ text.toList.getLast?, isBackslash c = false

/-- Well-formed names have no backslashes around them. -/
def BareName.ofWellFormed (text : String) (well : WellFormedName text) : BareName where
  text
  nonempty := well.ne_empty
  first := well.backslashless_ends.1
  last := well.backslashless_ends.2

/-- A text that is a name with backslashes in front of it, if any. -/
def IsRooted (text name : String) : Prop :=
  ∃ front, (∀ c ∈ front, isBackslash c = true) ∧ text.toList = front ++ name.toList

/-- A text that is a name with backslashes around it, if any. -/
def IsSurrounded (text name : String) : Prop :=
  ∃ front back, (∀ c ∈ front ++ back, isBackslash c = true) ∧
    text.toList = front ++ (name.toList ++ back)

theorem Text.strip_append_right {p : Char → Bool} {back : List Char}
    (dropped : ∀ c ∈ back, p c = true) (cs : List Char) : strip p (cs ++ back) = strip p cs := by
  induction back using List.reverseRecOn with
  | nil => rw [List.append_nil]
  | append_singleton back c ih =>
    rw [← List.append_assoc, strip_concat (dropped c (List.mem_append_right _ List.mem_cons_self))]
    exact ih fun d member => dropped d (List.mem_append_left _ member)

namespace BareName

variable {name : BareName} {text : String}

theorem toList_ne_nil (name : BareName) : name.text.toList ≠ [] := by
  intro empty
  exact name.nonempty (String.toList_inj.mp empty)

theorem dropLeadingBackslashes_eq (rooted : IsRooted text name.text) :
    dropLeadingBackslashes text = name.text := by
  obtain ⟨front, backslashes, spelled⟩ := rooted
  have unrooted := dropLeadingBackslashes_of_head name.first
  rw [dropLeadingBackslashes, spelled, List.dropWhile_append_of_pos backslashes]
  exact unrooted

theorem stripBackslashes_eq (surrounded : IsSurrounded text name.text) :
    stripBackslashes text = name.text := by
  obtain ⟨front, back, backslashes, spelled⟩ := surrounded
  obtain ⟨leading, trailing⟩ := List.forall_mem_append.mp backslashes
  rw [stripBackslashes, spelled, Text.strip_append_left leading, Text.strip_append_right trailing,
    Text.strip_of_ends name.first name.last, String.ofList_toList]

theorem toList_under (space name : BareName) :
    (space.text ++ "\\" ++ name.text).toList = space.text.toList ++ '\\' :: name.text.toList := by
  simp

/-- A name below a group's name. -/
def under (name space : BareName) : BareName where
  text := space.text ++ "\\" ++ name.text
  nonempty := by
    intro empty
    have characters := (toList_under space name).symm.trans (congrArg String.toList empty)
    exact List.append_ne_nil_of_left_ne_nil space.toList_ne_nil _ characters
  first := by
    rw [toList_under, List.head?_append_of_ne_nil _ space.toList_ne_nil]
    exact space.first
  last := by
    rw [toList_under, List.getLast?_append_of_ne_nil _ (List.cons_ne_nil _ _),
      List.getLast?_cons_of_ne_nil name.toList_ne_nil]
    exact name.last

theorem fullNameIn_eq (space name : BareName) :
    fullNameIn space.text name.text = (name.under space).text := by
  have nonempty : space.text.isEmpty = false :=
    Bool.eq_false_iff.mpr fun empty => space.nonempty (String.isEmpty_iff.mp empty)
  rw [fullNameIn, if_neg (Bool.eq_false_iff.mp nonempty)]
  rfl

theorem lastSegment_under (space name : BareName) :
    lastSegment (name.under space).text = lastSegment name.text := by
  have parts : Text.pieces isBackslash (name.under space).text.toList =
      Text.pieces isBackslash space.text.toList ++ Text.pieces isBackslash name.text.toList := by
    rw [under, toList_under, Text.pieces_append rfl]
  rw [lastSegment, lastSegment, parts, List.getLastD_eq_getLast?, List.getLastD_eq_getLast?,
    List.getLast?_append_of_ne_nil _ (Text.pieces_ne_nil _ _)]

end BareName

/-- An import of a class as it is written, with the short name if one is given. -/
structure WrittenImport where
  target : BareName
  shortName : Option String := none

namespace WrittenImport

/-- The short name, which is the last segment of the name unless another one is given. -/
def short (i : WrittenImport) : String :=
  i.shortName.getD (lastSegment i.target.text)

/-- What an import adds to the table of imports. -/
def entry (i : WrittenImport) : String × String :=
  (i.short, i.target.text)

/-- An import of a group, written as a single one. -/
def under (i : WrittenImport) (space : BareName) : WrittenImport :=
  { i with target := i.target.under space }

theorem entry_under (i : WrittenImport) (space : BareName) :
    (i.under space).entry = (i.short, (i.target.under space).text) := by
  rw [entry, short, under, BareName.lastSegment_under]
  rfl

end WrittenImport

namespace Tree

/-- A token or a comment between the parts of an import. -/
def IsFiller (t : SyntaxTree) : Prop :=
  t.value.field = none ∧ (t.value.named = false ∨ t.value.kind = .comment)

instance (t : SyntaxTree) : Decidable t.IsFiller :=
  inferInstanceAs (Decidable (_ ∧ _))

/-- A clause that imports a class: its name, and behind it the short name if one is given. -/
inductive ImportsClass (i : WrittenImport) : SyntaxTree → Prop
  | clause {n : Node} {before between behind : List SyntaxTree} {target : SyntaxTree}
      {short : Option SyntaxTree} (kind : n.kind = .importClause) (named : n.named = true)
      (fillers : ∀ u ∈ before ++ (between ++ behind), u.IsFiller)
      (isTarget : isImportTarget target.value = true) (unfilled : target.value.field = none)
      (spelled : IsRooted target.value.text i.target.text)
      (isShort : ∀ u ∈ short, u.value.field = some .shortName)
      (shortName : short.map (·.value.text) = i.shortName) :
      ImportsClass i (.node n (before ++ target :: (between ++ (short.toList ++ behind))))

/-- A clause that imports a function or a constant. -/
def ImportsNoClass (t : SyntaxTree) : Prop :=
  t.value.kind = .importClause ∧ ∃ u ∈ t.children, u.value.fills .importType = true

/-- The parts of a group, with the classes that it imports in order. -/
inductive ListsImports : List SyntaxTree → List WrittenImport → Prop
  | nil : ListsImports [] []
  | filler {t : SyntaxTree} {ts : List SyntaxTree} {imports : List WrittenImport}
      (filler : t.IsFiller) (rest : ListsImports ts imports) : ListsImports (t :: ts) imports
  | other {t : SyntaxTree} {ts : List SyntaxTree} {imports : List WrittenImport}
      (other : t.ImportsNoClass) (rest : ListsImports ts imports) : ListsImports (t :: ts) imports
  | clause {t : SyntaxTree} {ts : List SyntaxTree} {i : WrittenImport} {imports : List WrittenImport}
      (clause : ImportsClass i t) (rest : ListsImports ts imports) : ListsImports (t :: ts) (i :: imports)

/-- A declaration that imports classes below a name, which may have backslashes around it. -/
inductive ImportsGroup (space : BareName) (imports : List WrittenImport) : SyntaxTree → Prop
  | declaration {n : Node} {before between behind : List SyntaxTree} {name group : SyntaxTree}
      (kind : n.kind = .importDeclaration)
      (fillers : ∀ u ∈ before ++ (between ++ behind), u.IsFiller)
      (isName : name.value.named = true ∧ name.value.kind = .namespaceName)
      (spelled : IsSurrounded name.value.text space.text)
      (isGroup : group.value.named = true ∧ group.value.kind = .importGroup)
      (untyped : name.value.fills .importType = false ∧ group.value.fills .importType = false)
      (lists : ListsImports group.children imports) :
      ImportsGroup space imports (.node n (before ++ name :: (between ++ group :: behind)))

/-- A declaration that imports one class. -/
inductive ImportsOne (i : WrittenImport) : SyntaxTree → Prop
  | declaration {n : Node} {before behind : List SyntaxTree} {clause : SyntaxTree}
      (kind : n.kind = .importDeclaration) (fillers : ∀ u ∈ before ++ behind, u.IsFiller)
      (untyped : clause.value.fills .importType = false) (imports : ImportsClass i clause) :
      ImportsOne i (.node n (before ++ clause :: behind))

end Tree

section Fillers

open ClassGraph.Tree

variable {t : SyntaxTree} {ts : List SyntaxTree}

theorem fills_of_field {n : Node} {filled : Option Field} {field : Field} (is : n.field = filled)
    (other : filled ≠ some field) : n.fills field = false := by
  rw [Node.fills, is]
  exact beq_false_of_ne other

theorem Tree.IsFiller.unfilled (filler : t.IsFiller) (field : Field) : t.value.fills field = false :=
  fills_of_field filler.1 nofun

theorem childFilling?_cons {field : Field} (unfilled : t.value.fills field = false) :
    childFilling? field (t :: ts) = childFilling? field ts := by
  rw [childFilling?, List.find?_cons, unfilled]
  rfl

theorem childFilling?_fillers (fillers : ∀ u ∈ ts, u.IsFiller) (field : Field)
    (rest : List SyntaxTree) : childFilling? field (ts ++ rest) = childFilling? field rest := by
  induction ts with
  | nil => rfl
  | cons t ts ih =>
    obtain ⟨first, others⟩ := List.forall_mem_cons.mp fillers
    rw [List.cons_append, childFilling?_cons (first.unfilled field), ih others]

theorem childFilling?_of_fillers (fillers : ∀ u ∈ ts, u.IsFiller) (field : Field) :
    childFilling? field ts = none := by
  have passed := childFilling?_fillers fillers field []
  rw [List.append_nil] at passed
  exact passed

theorem Tree.IsFiller.isImportTarget (filler : t.IsFiller) : isImportTarget t.value = false := by
  rw [ClassGraph.isImportTarget]
  rcases filler.2 with unnamed | comment
  · rw [unnamed, Bool.false_and]
  · rw [comment]
    exact Bool.and_false _

theorem importsOfChildren_filler (filler : t.IsFiller) (groupName : String) :
    importsOfChildren groupName (t :: ts) = importsOfChildren groupName ts := by
  rw [importsOfChildren]
  split
  · rfl
  · rename_i named
    rcases filler.2 with unnamed | comment
    · rw [unnamed] at named
      exact absurd rfl named
    · rw [comment]

theorem importsOfChildren_fillers (fillers : ∀ u ∈ ts, u.IsFiller) (groupName : String)
    (rest : List SyntaxTree) :
    importsOfChildren groupName (ts ++ rest) = importsOfChildren groupName rest := by
  induction ts with
  | nil => rfl
  | cons t ts ih =>
    obtain ⟨first, others⟩ := List.forall_mem_cons.mp fillers
    rw [List.cons_append, importsOfChildren_filler first, ih others]

theorem importsOfChildren_of_fillers (fillers : ∀ u ∈ ts, u.IsFiller) (groupName : String) :
    importsOfChildren groupName ts = [] := by
  have passed := importsOfChildren_fillers fillers groupName []
  rw [List.append_nil] at passed
  exact passed

theorem importOfClause_filler (filler : t.IsFiller) (named : t.value.named = true)
    (groupName : String) : importOfClause groupName t = none := by
  obtain ⟨n, children⟩ := t
  rcases filler.2 with unnamed | comment
  · cases named.symm.trans unnamed
  · rw [importOfClause, show n.kind = .comment from comment]
    rfl

end Fillers

section Clauses

open ClassGraph.Tree

theorem markFirst_append {α : Type} {p : α → Bool} {l : List α} (none : ∀ a ∈ l, p a = false)
    (m : List α) : markFirst p (l ++ m) = l.map (fun _ => false) ++ markFirst p m := by
  induction l with
  | nil => rfl
  | cons a l ih =>
    obtain ⟨first, others⟩ := List.forall_mem_cons.mp none
    rw [List.cons_append, markFirst, if_neg (Bool.eq_false_iff.mp first), ih others]
    rfl

/-- The target of a clause is its first name that is not the short name. -/
theorem find?_target {before : List SyntaxTree} {target : SyntaxTree}
    (fillers : ∀ u ∈ before, u.IsFiller) (isTarget : isImportTarget target.value = true)
    (unfilled : target.value.fills .shortName = false) (rest : List SyntaxTree) :
    ((before ++ target :: rest).zip
        (markFirst (·.value.fills .shortName) (before ++ target :: rest))).find?
      (fun x => isImportTarget x.1.value && !x.2) = some (target, false) := by
  have marks : markFirst (·.value.fills .shortName) (before ++ target :: rest) =
      before.map (fun _ => false) ++ false :: markFirst (·.value.fills .shortName) rest := by
    rw [markFirst_append fun u member => (fillers u member).unfilled .shortName, markFirst,
      if_neg (Bool.eq_false_iff.mp unfilled)]
  have passed : (before.zip (before.map fun _ => false)).find?
      (fun x => isImportTarget x.1.value && !x.2) = none := by
    refine List.find?_eq_none.mpr fun x member => ?_
    rw [(fillers x.1 (List.of_mem_zip member).1).isImportTarget]
    exact Bool.false_ne_true
  rw [marks, List.zip_append (List.length_map ..).symm, List.find?_append, passed, Option.none_or,
    List.zip_cons_cons, List.find?_cons, isTarget]
  rfl

theorem importOfClause_class {i : WrittenImport} {t : SyntaxTree} (imports : ImportsClass i t)
    (groupName : String) :
    let full := fullNameIn (stripBackslashes groupName) i.target.text
    importOfClause groupName t = some (i.shortName.getD (lastSegment full), full) := by
  cases imports with
  | @clause n before between behind target short kind named fillers isTarget unfilled spelled isShort
      shortName =>
    obtain ⟨front, back⟩ := List.forall_mem_append.mp fillers
    obtain ⟨middle, rear⟩ := List.forall_mem_append.mp back
    have given (field : Field) : childFilling? field
        (before ++ target :: (between ++ (short.toList ++ behind))) =
          childFilling? field (short.toList ++ behind) := by
      rw [childFilling?_fillers front, childFilling?_cons (fills_of_field unfilled nofun),
        childFilling?_fillers middle]
    have nothing := childFilling?_of_fillers rear
    have untyped : childFilling? .importType
        (before ++ target :: (between ++ (short.toList ++ behind))) = none := by
      rw [given]
      cases short with
      | none => exact nothing .importType
      | some u =>
        rw [Option.toList_some, List.singleton_append,
          childFilling?_cons (fills_of_field (isShort u rfl) (by decide)), nothing]
    have renamed : textFilling? .shortName
        (before ++ target :: (between ++ (short.toList ++ behind))) = i.shortName := by
      rw [textFilling?, given, ← shortName]
      cases short with
      | none =>
        rw [Option.toList_none, List.nil_append, nothing]
      | some u =>
        have fills : u.value.fills .shortName = true := by
          rw [Node.fills, isShort u rfl]
          exact beq_self_eq_true _
        rw [Option.toList_some, List.singleton_append, childFilling?, List.find?_cons, fills]
    have found := find?_target front isTarget (fills_of_field unfilled nofun)
      (between ++ (short.toList ++ behind))
    have isClass : (n.kind != .importClause || (childFilling? .importType
        (before ++ target :: (between ++ (short.toList ++ behind)))).isSome) = false := by
      rw [untyped, kind]
      rfl
    rw [importOfClause, if_neg (Bool.eq_false_iff.mp isClass), renamed]
    simp only [found, bind, Option.bind, BareName.dropLeadingBackslashes_eq spelled]

theorem importOfClause_grouped {i : WrittenImport} {t : SyntaxTree} (imports : ImportsClass i t)
    {space : BareName} {groupName : String} (surrounded : IsSurrounded groupName space.text) :
    importOfClause groupName t = some (i.under space).entry := by
  rw [importOfClause_class imports, BareName.stripBackslashes_eq surrounded, BareName.fullNameIn_eq]
  rfl

theorem importOfClause_single {i : WrittenImport} {t : SyntaxTree} (imports : ImportsClass i t) :
    importOfClause "" t = some i.entry := by
  have global (name : String) : fullNameIn (stripBackslashes "") name = name := rfl
  rw [importOfClause_class imports, global]
  rfl

theorem importOfClause_other {t : SyntaxTree} (other : t.ImportsNoClass) (groupName : String) :
    importOfClause groupName t = none := by
  obtain ⟨n, children⟩ := t
  obtain ⟨-, u, member, fills⟩ := other
  have typed : (childFilling? .importType children).isSome = true :=
    List.find?_isSome.mpr ⟨u, member, fills⟩
  rw [importOfClause, typed, Bool.or_true]
  rfl

/-- A group imports its classes below its name; functions and constants are passed over. -/
theorem importsOf_lists {ts : List SyntaxTree} {imports : List WrittenImport}
    (lists : ListsImports ts imports) {space : BareName} {groupName : String}
    (surrounded : IsSurrounded groupName space.text) :
    (ts.filter (·.value.named)).filterMap (importOfClause groupName) =
      imports.map fun i => (i.under space).entry := by
  induction lists with
  | nil => rfl
  | @filler t ts imports filler rest ih =>
    rw [List.filter_cons]
    split
    · rename_i named
      rw [List.filterMap_cons_none (importOfClause_filler filler named groupName), ih]
    · exact ih
  | @other t ts imports other rest ih =>
    rw [List.filter_cons]
    split
    · rw [List.filterMap_cons_none (importOfClause_other other groupName), ih]
    · exact ih
  | @clause t ts i imports clause rest ih =>
    have named : t.value.named = true := by
      cases clause with
      | clause kind named => exact named
    rw [List.filter_cons, if_pos named,
      List.filterMap_cons_some (importOfClause_grouped clause surrounded), ih, List.map_cons]

end Clauses

section Declarations

variable {t : SyntaxTree} {ts : List SyntaxTree}

theorem importsOf_untyped (untyped : childFilling? .importType ts = none) :
    importsOf ts = importsOfChildren "" ts := by
  rw [importsOf, untyped]
  rfl

theorem importsOfChildren_name (named : t.value.named = true) (kind : t.value.kind = .namespaceName)
    (groupName : String) :
    importsOfChildren groupName (t :: ts) = importsOfChildren t.value.text ts := by
  rw [importsOfChildren, named, kind]
  rfl

theorem importsOfChildren_group (named : t.value.named = true) (kind : t.value.kind = .importGroup)
    (groupName : String) :
    importsOfChildren groupName (t :: ts) =
      (t.children.filter (·.value.named)).filterMap (importOfClause groupName) ++
        importsOfChildren groupName ts := by
  rw [importsOfChildren, named, kind]
  rfl

theorem importsOfChildren_clause (named : t.value.named = true) (kind : t.value.kind = .importClause)
    (groupName : String) :
    importsOfChildren groupName (t :: ts) =
      (importOfClause "" t).toList ++ importsOfChildren groupName ts := by
  rw [importsOfChildren, named, kind]
  rfl

end Declarations

namespace Tree

theorem ImportsGroup.importsOf_eq {space : BareName} {imports : List WrittenImport} {t : SyntaxTree}
    (group : ImportsGroup space imports t) :
    importsOf t.children = imports.map fun i => (i.under space).entry := by
  cases group with
  | @declaration n before between behind name group kind fillers isName spelled isGroup untyped lists =>
    obtain ⟨front, back⟩ := List.forall_mem_append.mp fillers
    obtain ⟨middle, rear⟩ := List.forall_mem_append.mp back
    have nothing : childFilling? .importType
        (before ++ name :: (between ++ group :: behind)) = none := by
      rw [childFilling?_fillers front, childFilling?_cons untyped.1, childFilling?_fillers middle,
        childFilling?_cons untyped.2, childFilling?_of_fillers rear]
    rw [children_node, importsOf_untyped nothing, importsOfChildren_fillers front,
      importsOfChildren_name isName.1 isName.2, importsOfChildren_fillers middle,
      importsOfChildren_group isGroup.1 isGroup.2, importsOfChildren_of_fillers rear, List.append_nil,
      importsOf_lists lists spelled]

theorem ImportsOne.importsOf_eq {i : WrittenImport} {t : SyntaxTree} (one : ImportsOne i t) :
    importsOf t.children = [i.entry] := by
  cases one with
  | @declaration n before behind clause kind fillers untyped imports =>
    obtain ⟨front, rear⟩ := List.forall_mem_append.mp fillers
    have nothing : childFilling? .importType (before ++ clause :: behind) = none := by
      rw [childFilling?_fillers front, childFilling?_cons untyped, childFilling?_of_fillers rear]
    have isClause : clause.value.named = true ∧ clause.value.kind = .importClause := by
      cases imports with
      | clause kind named => exact ⟨named, kind⟩
    rw [children_node, importsOf_untyped nothing, importsOfChildren_fillers front,
      importsOfChildren_clause isClause.1 isClause.2, importsOfChildren_of_fillers rear,
      List.append_nil, importOfClause_single imports]
    rfl

/-- An import declaration notes the names that it imports and adds them to the imports in force. -/
theorem resolveIn_import {t : SyntaxTree} (kind : t.value.kind = .importDeclaration) (s : Scope) :
    (t.resolveIn s []).1.value.imports = (importsOf t.children).map (·.2) ∧
    (t.resolveIn s []).2 =
      { s with imports := (importsOf t.children).foldl (fun table i => table.add i.1 i.2) s.imports } := by
  obtain ⟨n, children⟩ := t
  rw [value_node] at kind
  constructor
  · rw [resolveIn, value_node, Scope.resolveNode, if_pos kind]
    rfl
  · rw [resolveIn, Scope.after, kind]
    rfl

/-- Declarations of one class each, one after another. -/
theorem resolveEach_singles {singles : List SyntaxTree} {imports : List WrittenImport}
    (each : List.Forall₂ (fun t i => ImportsOne i t) singles imports) (s : Scope) :
    (resolveEach s singles).1.map (·.value.imports) = imports.map (fun i => [i.target.text]) ∧
    (resolveEach s singles).2 =
      { s with
        imports := (imports.map (·.entry)).foldl (fun table i => table.add i.1 i.2) s.imports } := by
  induction each generalizing s with
  | nil => exact ⟨rfl, rfl⟩
  | @cons t i singles imports one rest ih =>
    have kind : t.value.kind = .importDeclaration := by
      cases one with
      | declaration kind => exact kind
    obtain ⟨noted, behind⟩ := resolveIn_import kind s
    rw [one.importsOf_eq] at noted behind
    obtain ⟨later, last⟩ := ih (t.resolveIn s []).2
    rw [resolveEach_cons]
    constructor
    · rw [List.map_cons, noted, later]
      rfl
    · rw [last, behind]
      rfl

end Tree

/-- The newest import of a short name counts; case does not matter. -/
theorem ImportTable.find?_foldl_add (imports : List (String × String)) (table : ImportTable)
    (word : String) :
    (imports.foldl (fun table i => table.add i.1 i.2) table).find? word =
      ((imports.reverse.find? fun i => Text.sameIgnoringCase word i.1).map
        (dropLeadingBackslashes ·.2)).or (table.find? word) := by
  induction imports generalizing table with
  | nil => rfl
  | cons i imports ih =>
    rw [List.foldl_cons, ih, find?_add, List.reverse_cons, List.find?_append]
    cases imports.reverse.find? fun i => Text.sameIgnoringCase word i.1 with
    | some found => rfl
    | none =>
      rw [Option.none_or, List.find?_cons, Option.map_none, Option.none_or]
      cases Text.sameIgnoringCase word i.1 <;> rfl

/-- A grouped import means its expansion, in every scope. The names that it notes are those that the
single declarations note one after another, and the scope behind is the same. In that scope a short
name, in whatever case, means the last class of the group that has it, and what it meant before if there
is none. Whatever is declared later is resolved to the same trees. -/
theorem Scope.grouped_imports_expand (s : Scope) {space : BareName} {imports : List WrittenImport}
    {grouped : SyntaxTree} {singles : List SyntaxTree}
    (group : Tree.ImportsGroup space imports grouped)
    (expanded : List.Forall₂ (fun t i => Tree.ImportsOne (i.under space) t) singles imports) :
    let full (i : WrittenImport) : String := space.text ++ "\\" ++ i.target.text
    let behind := (grouped.resolveIn s []).2
    (grouped.resolveIn s []).1.value.imports = imports.map full ∧
    (Tree.resolveEach s singles).1.map (·.value.imports) = imports.map (fun i => [full i]) ∧
    (Tree.resolveEach s singles).2 = behind ∧
    (behind.space = s.space ∧ behind.enclosing = s.enclosing) ∧
    (∀ word, behind.imports.find? word =
      ((imports.reverse.find? fun i => Text.sameIgnoringCase word i.short).map full).or
        (s.imports.find? word)) ∧
    ∀ later, ∃ rest,
      (Tree.resolveEach s (grouped :: later)).1 = (grouped.resolveIn s []).1 :: rest ∧
      (Tree.resolveEach s (singles ++ later)).1 = (Tree.resolveEach s singles).1 ++ rest := by
  intro full behind
  have kind : grouped.value.kind = .importDeclaration := by
    cases group with
    | declaration kind => exact kind
  obtain ⟨noted, scope⟩ := Tree.resolveIn_import kind s
  rw [group.importsOf_eq] at noted scope
  obtain ⟨notedEach, scopeEach⟩ := Tree.resolveEach_singles (List.forall₂_map_right_iff.mpr expanded) s
  rw [List.map_map] at notedEach scopeEach
  have same : (Tree.resolveEach s singles).2 = behind := scopeEach.trans scope.symm
  refine ⟨?_, notedEach, same, ?_, ?_, ?_⟩
  · rw [noted, List.map_map]
    rfl
  · rw [show behind = _ from scope]
    exact ⟨rfl, rfl⟩
  · intro word
    have kept (i : WrittenImport) : dropLeadingBackslashes (full i) = full i :=
      dropLeadingBackslashes_of_head (i.target.under space).first
    rw [show behind = _ from scope]
    dsimp only
    rw [ImportTable.find?_foldl_add, ← List.map_reverse, List.find?_map, Option.map_map]
    simp only [Function.comp_def, WrittenImport.entry_under]
    exact congrArg (Option.or · _) (congrArg (Option.map · _) (funext kept))
  · intro later
    refine ⟨(Tree.resolveEach behind later).1, ?_, ?_⟩
    · rw [Tree.resolveEach_cons]
    · rw [Tree.resolveEach_append, same]

section Samples

open ClassGraph.Tree

namespace Tree

def sampleToken (text : String) : SyntaxTree :=
  .node { kind := .other text, named := false, text } []

theorem sampleToken_isFiller (text : String) : (sampleToken text).IsFiller :=
  ⟨rfl, .inl rfl⟩

/-- A clause that imports a class, with or without a short name. -/
def sampleClause (i : WrittenImport) : SyntaxTree :=
  let short := i.shortName.map fun text =>
    Tree.node { kind := .name .simple, field := some .shortName, text } []
  .node { kind := .importClause }
    ([] ++ .node { kind := .name .qualified, text := i.target.text } [] ::
      (short.toList.map (fun _ => sampleToken "as") ++ (short.toList ++ [])))

theorem sampleClause_imports (i : WrittenImport) : ImportsClass i (sampleClause i) := by
  refine .clause rfl rfl ?_ rfl rfl ⟨[], nofun, rfl⟩ ?_ ?_
  · intro u member
    rw [List.nil_append, List.append_nil] at member
    obtain ⟨-, -, rfl⟩ := List.mem_map.mp member
    exact sampleToken_isFiller "as"
  · intro u member
    obtain ⟨text, -, rfl⟩ := Option.map_eq_some_iff.mp member
    rfl
  · rw [Option.map_map]
    exact Option.map_id' ..

/-- A declaration that imports one class. -/
def sampleSingle (i : WrittenImport) : SyntaxTree :=
  .node { kind := .importDeclaration } ([sampleToken "use"] ++ sampleClause i :: [sampleToken ";"])

theorem sampleSingle_imports (i : WrittenImport) : ImportsOne i (sampleSingle i) := by
  refine .declaration rfl ?_ rfl (sampleClause_imports i)
  exact List.forall_mem_cons.mpr ⟨sampleToken_isFiller "use",
    List.forall_mem_singleton.mpr (sampleToken_isFiller ";")⟩

/-- Three classes below a name with backslashes around it, and a function. -/
def sampleGroup (space : String) (first second third : WrittenImport) : SyntaxTree :=
  let function : SyntaxTree := .node { kind := .importClause }
    [.node { kind := .other "function", field := some .importType, named := false } []]
  .node { kind := .importDeclaration } ([sampleToken "use"] ++
    .node { kind := .namespaceName, text := "\\" ++ space ++ "\\" } [] :: ([] ++
      .node { kind := .importGroup }
        [sampleClause first, sampleToken ",", function, sampleToken ",", sampleClause second,
          sampleToken ",", sampleClause third] :: [sampleToken ";"]))

theorem sampleGroup_imports (space : BareName) (first second third : WrittenImport) :
    ImportsGroup space [first, second, third] (sampleGroup space.text first second third) := by
  have comma := sampleToken_isFiller ","
  refine .declaration rfl ?_ ⟨rfl, rfl⟩ ⟨['\\'], ['\\'], ?_, ?_⟩ ⟨rfl, rfl⟩ ⟨rfl, rfl⟩ ?_
  · exact List.forall_mem_cons.mpr ⟨sampleToken_isFiller "use",
      List.forall_mem_singleton.mpr (sampleToken_isFiller ";")⟩
  · exact List.forall_mem_cons.mpr ⟨rfl, List.forall_mem_singleton.mpr rfl⟩
  · simp
  · exact .clause (sampleClause_imports first) (.filler comma
      (.other ⟨rfl, _, List.mem_singleton.mpr rfl, rfl⟩ (.filler comma
        (.clause (sampleClause_imports second) (.filler comma
          (.clause (sampleClause_imports third) .nil))))))

end Tree

/-- The third class takes over the short name of the second. -/
theorem Scope.grouped_imports_expand_sampleGroup :
    let space := BareName.ofWellFormed "Lib" (by decide)
    let first : WrittenImport := ⟨.ofWellFormed "Foo" (by decide), none⟩
    let second : WrittenImport := ⟨.ofWellFormed "Sub\\Bar" (by decide), some "Baz"⟩
    let third : WrittenImport := ⟨.ofWellFormed "foo" (by decide), some "BAZ"⟩
    let grouped := sampleGroup space.text first second third
    let singles := [first, second, third].map fun i => sampleSingle (i.under space)
    ImportsGroup space [first, second, third] grouped ∧
      List.Forall₂ (fun t i => ImportsOne (i.under space) t) singles [first, second, third] ∧
      (grouped.resolveIn {} []).1.value.imports = ["Lib\\Foo", "Lib\\Sub\\Bar", "Lib\\foo"] ∧
      (resolveEach {} singles).2 = (grouped.resolveIn {} []).2 ∧
      (grouped.resolveIn {} []).2.imports.find? "baz" = some "Lib\\foo" ∧
      (grouped.resolveIn {} []).2.imports.find? "FOO" = some "Lib\\Foo" := by
  intro space first second third grouped singles
  have group := sampleGroup_imports space first second third
  have expanded : List.Forall₂ (fun t i => ImportsOne (i.under space) t) singles
      [first, second, third] :=
    List.forall₂_map_left_iff.mpr
      (List.forall₂_same.mpr fun i _ => sampleSingle_imports (i.under space))
  obtain ⟨noted, -, same, -, found, -⟩ := grouped_imports_expand {} group expanded
  exact ⟨group, expanded, noted, same, (found "baz").trans (by decide),
    (found "FOO").trans (by decide)⟩

end Samples

end ClassGraph
