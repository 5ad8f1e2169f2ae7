import ClassGraph.Proofs.Annotation
import ClassGraph.Proofs.QualifiedNames

namespace ClassGraph

def Kind.isClause : Kind → Bool
  | .clause _ => true
  | _ => false

/-- The names that a node and its children write down, by the part they play, are built from
well-formed ones. Only the name of a declared class may not begin with a backslash. -/
structure Node.SpelledWell (n : Node) (children : List SyntaxTree) : Prop where
  space : n.kind = .namespaceDefinition → ∀ text ∈ textFilling? .name children, IsReference text
  declared : n.kind.isDeclaration = true →
    ∀ text ∈ textFilling? .name children, WellFormedName text
  grouped : n.kind = .importDeclaration →
    ∀ child ∈ children, child.value.kind = .namespaceName → IsReference child.value.text
  imported : n.kind = .importClause →
    ∀ child ∈ children, isImportTarget child.value = true → IsReference child.value.text
  listed : n.kind.isClause = true →
    ∀ child ∈ children, child.value.isListedName = true → IsReference child.value.text
  read : ∀ i ∈ n.kind.classPart? (children.map Tree.value), ∀ part ∈ children[i]?,
    part.value.isName = true → IsReference part.value.text
  typed : n.kind.isType = true → ∀ member ∈ typeMembers n.text, IsReference member

instance (n : Node) (children : List SyntaxTree) : Decidable (n.SpelledWell children) :=
  decidable_of_iff (_ ∧ _ ∧ _ ∧ _ ∧ _ ∧ _ ∧ _)
    ⟨fun ⟨space, declared, grouped, imported, listed, read, typed⟩ =>
        ⟨space, declared, grouped, imported, listed, read, typed⟩,
      fun ⟨space, declared, grouped, imported, listed, read, typed⟩ =>
        ⟨space, declared, grouped, imported, listed, read, typed⟩⟩

/-- Every name that a tree writes down is built from well-formed ones. -/
def Tree.SpelledWell (t : SyntaxTree) : Prop :=
  ∀ p ∈ t.places, ∀ u ∈ t.at? p, u.value.SpelledWell u.children

instance (t : SyntaxTree) : Decidable t.SpelledWell :=
  inferInstanceAs (Decidable (∀ p ∈ t.places, _))

namespace Tree.SpelledWell

variable {t : SyntaxTree} (spelled : t.SpelledWell)
include spelled

theorem root : t.value.SpelledWell t.children :=
  spelled [] (mem_places.mpr (by rw [at?_nil]; rfl)) t (at?_nil t)

theorem child {child : SyntaxTree} (member : child ∈ t.children) : child.SpelledWell := by
  intro p _ u below
  obtain ⟨i, at_i⟩ := List.mem_iff_getElem?.mp member
  have here : t.at? (i :: p) = some u := by
    obtain ⟨n, children⟩ := t
    rw [at?_cons, show children[i]? = some child from at_i]
    exact below
  exact spelled (i :: p) (mem_places.mpr (here ▸ rfl)) u here

end Tree.SpelledWell

/-- A node with well-formed names only. -/
structure ResolvedNode.WellNamed (n : ResolvedNode) : Prop where
  names : ∀ name ∈ n.names, WellFormedName name
  declares : ∀ name ∈ n.declares, WellFormedName name
  imports : ∀ name ∈ n.imports, WellFormedName name

section Imports

/-- An import clause gives the text of one of its targets, joined to the prefix of its group. -/
theorem full_of_importOfClause {group : String} {clause : SyntaxTree} {found : String × String}
    (imports : importOfClause group clause = some found) :
    clause.value.kind = .importClause ∧ ∃ target ∈ clause.children,
      isImportTarget target.value = true ∧
      found.2 = fullNameIn (stripBackslashes group) (dropLeadingBackslashes target.value.text) := by
  obtain ⟨n, children⟩ := clause
  rw [importOfClause] at imports
  split at imports
  · cases imports
  rename_i isClass
  obtain ⟨⟨target, short⟩, chosen, imports⟩ := Option.bind_eq_some_iff.mp imports
  have kind : n.kind = .importClause := by
    simp only [Bool.or_eq_true, not_or, bne_iff_ne, ne_eq, Decidable.not_not] at isClass
    exact isClass.1
  have isTarget := List.find?_some chosen
  have member := (List.of_mem_zip (List.mem_of_find?_eq_some chosen)).1
  simp only [Bool.and_eq_true] at isTarget
  exact ⟨kind, target, member, isTarget.1, by rw [← Option.some.inj imports]⟩

theorem importOfClause_wellFormed {group : String} (wellGroup : group = "" ∨ IsReference group)
    {clause : SyntaxTree} (spelled : clause.SpelledWell) {found : String × String}
    (imports : importOfClause group clause = some found) : WellFormedName found.2 := by
  obtain ⟨kind, target, member, isTarget, full⟩ := full_of_importOfClause imports
  have wellTarget := (spelled.root.imported kind target member isTarget).dropLeadingBackslashes_wellFormed
  have wellSpace : stripBackslashes group = "" ∨ WellFormedName (stripBackslashes group) := by
    rcases wellGroup with rfl | reference
    · exact .inl (by decide)
    · exact .inr reference.stripBackslashes_wellFormed
  rw [full]
  exact fullNameIn_wellFormed wellSpace wellTarget

theorem importsOfChildren_wellFormed {group : String} (wellGroup : group = "" ∨ IsReference group)
    {children : List SyntaxTree} (spelled : ∀ child ∈ children, child.SpelledWell)
    (grouped : ∀ child ∈ children, child.value.kind = .namespaceName →
      IsReference child.value.text) :
    ∀ found ∈ importsOfChildren group children, WellFormedName found.2 := by
  induction children generalizing group with
  | nil => simp [importsOfChildren]
  | cons child rest ih =>
    have others {group : String} (wellGroup : group = "" ∨ IsReference group) :=
      ih wellGroup (fun c member => spelled c (List.mem_cons_of_mem _ member))
        fun c member => grouped c (List.mem_cons_of_mem _ member)
    rw [importsOfChildren]
    split
    · exact others wellGroup
    split
    · rename_i kind
      exact others (.inr (grouped child List.mem_cons_self kind))
    · intro found member
      rcases List.mem_append.mp member with inClause | later
      · exact importOfClause_wellFormed (.inl rfl) (spelled child List.mem_cons_self)
          (Option.mem_toList.mp inClause)
      · exact others wellGroup found later
    · intro found member
      rcases List.mem_append.mp member with inGroup | later
      · obtain ⟨clause, listed, imports⟩ := List.mem_filterMap.mp inGroup
        have inside := (spelled child List.mem_cons_self).child (List.mem_of_mem_filter listed)
        exact importOfClause_wellFormed wellGroup inside imports
      · exact others wellGroup found later
    · exact others wellGroup

theorem importsOf_wellFormed {t : SyntaxTree} (spelled : t.SpelledWell)
    (kind : t.value.kind = .importDeclaration) :
    ∀ found ∈ importsOf t.children, WellFormedName found.2 := by
  unfold importsOf
  split
  · simp
  · exact importsOfChildren_wellFormed (.inl rfl) (fun child => spelled.child) (spelled.root.grouped kind)

end Imports

namespace Scope.WellFormed

theorem global : Scope.WellFormed {} :=
  ⟨.inl rfl, by simp, by simp⟩

theorem ofNamespace {t : SyntaxTree} (spelled : t.SpelledWell)
    (kind : t.value.kind = .namespaceDefinition) : (Scope.ofNamespace t.children).WellFormed := by
  unfold Scope.ofNamespace Scope.ofSpace
  refine ⟨?_, by simp, by simp⟩
  cases named : textFilling? .name t.children with
  | none => exact .inl (by decide)
  | some text => exact .inr (spelled.root.space kind text named).stripBackslashes_wellFormed

variable {s : Scope} (scope : s.WellFormed)
include scope

theorem addImports {imports : List (String × String)}
    (well : ∀ found ∈ imports, WellFormedName found.2) :
    Scope.WellFormed
      { s with imports := imports.foldl (fun table i => table.add i.1 i.2) s.imports } := by
  induction imports generalizing s with
  | nil => exact scope
  | cons i imports ih =>
    have added : Scope.WellFormed { s with imports := s.imports.add i.1 i.2 } := by
      refine ⟨scope.space, ?_, scope.enclosing⟩
      intro entry member
      rcases List.mem_cons.mp member with rfl | old
      · show WellFormedName (dropLeadingBackslashes i.2)
        rw [(well i List.mem_cons_self).dropLeadingBackslashes_eq]
        exact well i List.mem_cons_self
      · exact scope.imports entry old
    exact ih added fun found member => well found (List.mem_cons_of_mem i member)

variable {t : SyntaxTree} (spelled : t.SpelledWell)
include spelled

theorem declared {name : String} (declares : s.declared t.value t.children = some name) :
    WellFormedName name := by
  unfold Scope.declared at declares
  split at declares
  · rename_i form kind
    obtain ⟨text, named, rfl⟩ := Option.map_eq_some_iff.mp declares
    exact scope.fullName (spelled.root.declared (by rw [kind]; rfl) text named)
  · cases declares

theorem parentNamed {parent : String} (named : s.parentNamed t.children = some parent) :
    WellFormedName parent := by
  obtain ⟨clause, found, named⟩ := Option.bind_eq_some_iff.mp named
  obtain ⟨word, foundWord, named⟩ := Option.bind_eq_some_iff.mp named
  have isClause := List.find?_some found
  have isListed : word.value.isListedName = true := by simpa using List.find?_some foundWord
  simp only [Bool.and_eq_true, beq_iff_eq] at isClause
  have inside := (spelled.child (List.mem_of_find?_eq_some found)).root
  have reference := inside.listed (by rw [isClause.2]; rfl) word
    (List.mem_of_find?_eq_some foundWord) isListed
  exact scope.name?_meaning reference named

theorem enclosingInside : ∀ c ∈ s.enclosingInside t.value t.children, c.WellFormed := by
  intro c around
  unfold Scope.enclosingInside at around
  split at around
  · rename_i form kind
    split at around
    · rename_i name declares
      cases around
      refine ⟨?_, ?_⟩
      · rintro _ ⟨⟩
        exact scope.declared spelled declares
      · intro parent named
        dsimp only at named
        split at named
        · exact scope.parentNamed spelled named
        · cases named
    · exact scope.enclosing c around
  · cases around
    exact ⟨by simp, fun parent named => scope.parentNamed spelled named⟩
  · exact scope.enclosing c around

/-- What a node does to a well-formed scope for its children leaves it well formed. -/
theorem inside : (s.inside t.value t.children).WellFormed := by
  unfold Scope.inside
  split
  · exact .ofNamespace spelled ‹_›
  · exact ⟨scope.space, scope.imports, scope.enclosingInside spelled⟩

theorem after {last : Scope} (wellLast : last.WellFormed) :
    (s.after t.value t.children last).WellFormed := by
  unfold Scope.after
  split
  · split
    · exact scope
    · exact .ofNamespace spelled ‹_›
  · exact scope.addImports (importsOf_wellFormed spelled ‹_›)
  · split
    · exact ⟨wellLast.space, wellLast.imports, scope.enclosing⟩
    · exact wellLast

theorem marks : ∀ mark ∈ Mark.ofChildren s t.value t.children,
    ∀ name ∈ mark.names, WellFormedName name := by
  intro mark listed name member
  obtain ⟨i, here⟩ := List.mem_iff_getElem?.mp listed
  obtain ⟨child, at_i, isName, names, read⟩ :=
    Mark.read_of_names here (List.ne_nil_of_mem member)
  rw [names] at member
  refine scope.namesOfReference ?_ name member
  rcases read with ⟨⟨form, kind⟩, isListed⟩ | part
  · exact spelled.root.listed (by rw [kind]; rfl) child (List.mem_of_getElem? at_i) isListed
  · exact spelled.root.read i part child at_i isName

theorem resolveNode {given : List String} (wellGiven : ∀ name ∈ given, WellFormedName name) :
    (s.resolveNode given t.value t.children).WellNamed := by
  refine ⟨?_, fun name => scope.declared spelled, ?_⟩
  · intro name member
    rcases List.mem_append.mp member with isGiven | own
    · exact wellGiven name isGiven
    · unfold Scope.ownNames at own
      split at own
      · rename_i form kind
        exact scope.namesOfType (spelled.root.typed (by rw [kind]; rfl)) name own
      · cases own
  · intro name member
    simp only [Scope.resolveNode] at member
    split at member
    · rename_i kind
      obtain ⟨found, imported, rfl⟩ := List.mem_map.mp member
      exact importsOf_wellFormed spelled kind found imported
    · cases member

end Scope.WellFormed

namespace Tree

/-- A tree all of whose nodes have well-formed names only. -/
def WellNamed (t : ResolvedTree) : Prop :=
  ∀ n ∈ t.preorder, n.WellNamed

theorem wellNamed_node {n : ResolvedNode} {children : List ResolvedTree} :
    WellNamed (node n children) ↔ n.WellNamed ∧ ∀ child ∈ children, child.WellNamed := by
  simp only [WellNamed, preorder, preorderAll_eq_flatMap, List.forall_mem_cons,
    List.forall_mem_flatMap]

theorem WellNamed.value {t : ResolvedTree} (well : t.WellNamed) : t.value.WellNamed := by
  obtain ⟨n, children⟩ := t
  exact (wellNamed_node.mp well).1

theorem WellNamed.child {t child : ResolvedTree} (well : t.WellNamed) (member : child ∈ t.children) :
    child.WellNamed := by
  obtain ⟨n, children⟩ := t
  exact (wellNamed_node.mp well).2 child member

theorem leave_wellNamed {given : List String} (wellGiven : ∀ name ∈ given, WellFormedName name)
    (t : SyntaxTree) : (t.leave given).WellNamed := by
  induction t using Tree.induction generalizing given with
  | node n children ih =>
    rw [leave, leaveAll_eq_map, wellNamed_node]
    refine ⟨⟨wellGiven, by simp, by simp⟩, ?_⟩
    intro child member
    obtain ⟨source, listed, rfl⟩ := List.mem_map.mp member
    exact ih source listed (by simp)

/-- What the pass makes of a tree in a well-formed scope is well named, and so is the scope behind
it. -/
def ResolvesWell (t : SyntaxTree) : Prop :=
  ∀ (s : Scope) (given : List String), s.WellFormed → (∀ name ∈ given, WellFormedName name) →
    (t.resolveIn s given).1.WellNamed ∧ (t.resolveIn s given).2.WellFormed

theorem resolveAllIn_wellNamed {ts : List SyntaxTree} (each : ∀ t ∈ ts, t.ResolvesWell)
    {marks : List Mark} (wellMarks : ∀ mark ∈ marks, ∀ name ∈ mark.names, WellFormedName name)
    {s : Scope} (scope : s.WellFormed) :
    (∀ t ∈ (resolveAllIn s marks ts).1, t.WellNamed) ∧ (resolveAllIn s marks ts).2.WellFormed := by
  induction ts generalizing s marks with
  | nil => exact ⟨by simp [resolveAllIn], scope⟩
  | cons t ts ih =>
    have eachLater : ∀ u ∈ ts, u.ResolvesWell := fun u member => each u (List.mem_cons_of_mem t member)
    cases marks with
    | nil =>
      refine ⟨?_, scope⟩
      intro u member
      rw [resolveAllIn_nil] at member
      obtain ⟨source, -, rfl⟩ := List.mem_map.mp member
      exact leave_wellNamed (by simp [Mark.skipped]) source
    | cons mark marks =>
      have wellMark := wellMarks mark List.mem_cons_self
      have wellLater := fun m member => wellMarks m (List.mem_cons_of_mem mark member)
      rw [resolveAllIn]
      simp only [List.head?_cons, List.tail_cons]
      split
      · obtain ⟨wellFirst, behind⟩ := each t List.mem_cons_self s mark.names scope wellMark
        obtain ⟨wellOthers, last⟩ := ih eachLater wellLater behind
        exact ⟨List.forall_mem_cons.mpr ⟨wellFirst, wellOthers⟩, last⟩
      · obtain ⟨wellOthers, last⟩ := ih eachLater wellLater scope
        exact ⟨List.forall_mem_cons.mpr ⟨leave_wellNamed wellMark t, wellOthers⟩, last⟩

theorem SpelledWell.resolvesWell {t : SyntaxTree} (spelled : t.SpelledWell) : t.ResolvesWell := by
  induction t using Tree.induction with
  | node n children ih =>
    intro s given scope wellGiven
    have each : ∀ child ∈ children, child.ResolvesWell := fun child member =>
      ih child member (spelled.child member)
    obtain ⟨below, last⟩ :=
      resolveAllIn_wellNamed each (scope.marks spelled) (scope.inside spelled)
    exact ⟨wellNamed_node.mpr ⟨scope.resolveNode spelled wellGiven, below⟩, scope.after spelled last⟩

theorem SpelledWell.resolve {t : SyntaxTree} (spelled : t.SpelledWell) : t.resolve.WellNamed :=
  (spelled.resolvesWell {} [] .global (by simp)).1

end Tree

end ClassGraph
