import ClassGraph.Proofs.DeclaredClasses
import ClassGraph.Proofs.WellNamedTrees

namespace ClassGraph

/-- The name that an event brings into a record. -/
def Event.name? : Event → Option String
  | .enter name => some name
  | .leave => none
  | .edge e => some e.target
  | .use target _ => some target

theorem Rule.name_wellFormed {rule : Rule} {t : ResolvedTree} (well : t.WellNamed) {event : Event}
    (recorded : event ∈ rule.events t) : ∀ name ∈ event.name?, WellFormedName name := by
  obtain ⟨n, children⟩ := t
  have ofEdges {kind : EdgeKind} {ts : List ResolvedTree} (wellTrees : ∀ u ∈ ts, u.WellNamed)
      (member : event ∈ ts.flatMap (edgesTo kind)) : ∀ name ∈ event.name?, WellFormedName name := by
    obtain ⟨u, listed, member⟩ := List.mem_flatMap.mp member
    obtain ⟨target, named, rfl⟩ := mem_edgesTo.mp member
    rintro _ ⟨⟩
    exact (wellTrees u listed).value.names target named
  have ofListed : ∀ u ∈ listedNames children, u.WellNamed := fun u member =>
    well.child (List.mem_of_mem_filter member)
  have ofFound {p : ResolvedTree → Bool} : ∀ u ∈ (children.find? p).toList, u.WellNamed :=
    fun u member => well.child (List.mem_of_find?_eq_some (Option.mem_toList.mp member))
  simp only [Rule.events] at recorded
  split at recorded
  case h_4 =>
    have listed : event ∈ [Tree.node n children].flatMap (edgesTo .typeHint) := by simpa using recorded
    exact ofEdges (by simpa using well) listed
  case h_9 =>
    split at recorded
    · exact ofEdges ofFound recorded
    · cases recorded
  case h_10 =>
    obtain ⟨target, imported, rfl⟩ := List.mem_map.mp recorded
    rintro _ ⟨⟩
    exact well.value.imports target imported
  case h_11 => cases recorded
  case h_1 | h_2 | h_3 => exact ofEdges ofListed recorded
  all_goals exact ofEdges ofFound recorded

theorem Tree.WellNamed.events {t : ResolvedTree} (well : t.WellNamed) (rules : List Rule) :
    ∀ event ∈ t.events rules, ∀ name ∈ event.name?, WellFormedName name := by
  induction t using Tree.induction with
  | node n children ih =>
    intro event member
    rw [events_node] at member
    simp only [List.mem_append, Option.mem_toList, Option.map_eq_some_iff, List.mem_flatMap] at member
    rcases member with ((⟨name, declares, rfl⟩ | ⟨rule, -, recorded⟩) | ⟨child, below, inChild⟩) |
      ⟨name, -, rfl⟩
    · rintro _ ⟨⟩
      exact well.value.declares name declares
    · exact rule.name_wellFormed well recorded
    · exact ih child below (well.child below) event inChild
    · rintro _ ⟨⟩

namespace Recorder

/-- A recorder that holds well-formed names only. -/
structure WellNamed (r : Recorder) : Prop where
  classes : ∀ c ∈ r.classes, WellFormedName c.name ∧ ∀ e ∈ c.edges, WellFormedName e.target
  imports : ∀ e ∈ r.imports, WellFormedName e.target

theorem WellNamed.step {r : Recorder} (well : r.WellNamed) {event : Event}
    (named : ∀ name ∈ event.name?, WellFormedName name) : (r.step event).WellNamed := by
  cases event with
  | enter name =>
    refine ⟨?_, well.imports⟩
    intro c member
    rcases List.mem_append.mp member with old | new
    · exact well.classes c old
    · cases List.mem_singleton.mp new
      exact ⟨named name rfl, by simp⟩
  | leave => exact ⟨well.classes, well.imports⟩
  | edge e =>
    rw [Recorder.step]
    split
    · exact well
    · refine ⟨?_, well.imports⟩
      intro c member
      rcases mem_modify member with old | ⟨before, old, rfl⟩
      · exact well.classes c old
      · obtain ⟨wellName, wellEdges⟩ := well.classes before old
        refine ⟨wellName, ?_⟩
        intro other inEdges
        rcases List.mem_append.mp inEdges with inOld | isNew
        · exact wellEdges other inOld
        · cases List.mem_singleton.mp isNew
          exact named e.target rfl
  | use target line =>
    refine ⟨well.classes, ?_⟩
    intro e member
    rcases List.mem_append.mp member with old | new
    · exact well.imports e old
    · cases List.mem_singleton.mp new
      exact named target rfl

theorem WellNamed.run {r : Recorder} (well : r.WellNamed) {events : List Event}
    (named : ∀ event ∈ events, ∀ name ∈ event.name?, WellFormedName name) :
    (r.run events).WellNamed := by
  induction events generalizing r with
  | nil => exact well
  | cons event events ih =>
    have first := well.step (named event List.mem_cons_self)
    exact ih first fun later member => named later (List.mem_cons_of_mem event member)

end Recorder

/-- The names that a record keeps: of its classes, and those that edges and imports lead to. -/
def FileRecord.storedNames (file : FileRecord) : List String :=
  (file.classes.flatMap fun c => c.name :: c.edges.map (·.target)) ++ file.imports.map (·.target)

theorem FileRecord.storedNames_wellFormed {t : SyntaxTree} (spelled : t.SpelledWell)
    (rules : List Rule) (path : Pathname) (countsImports : Bool) :
    ∀ name ∈ (ofTree rules path countsImports t).storedNames, WellFormedName name := by
  have empty : Recorder.WellNamed {} := ⟨by simp, by simp⟩
  have recorded := empty.run (spelled.resolve.events rules)
  intro name member
  rcases List.mem_append.mp member with inClass | inImports
  · obtain ⟨c, listed, member⟩ := List.mem_flatMap.mp inClass
    rw [ofTree, ofEvents, Recorder.classes_finish] at listed
    obtain ⟨old, inOld, rfl⟩ := List.mem_map.mp listed
    obtain ⟨wellName, wellEdges⟩ := recorded.classes old inOld
    rcases List.mem_cons.mp member with rfl | isTarget
    · exact wellName
    · obtain ⟨e, inEdges, rfl⟩ := List.mem_map.mp isTarget
      rcases List.mem_append.mp inEdges with own | counted
      · exact wellEdges e own
      · split at counted
        · exact recorded.imports e counted
        · cases counted
  · obtain ⟨e, imported, rfl⟩ := List.mem_map.mp inImports
    exact recorded.imports e imported

namespace Declaration

/-- The names that a declaration keeps: its own, its parents, interfaces and traits. -/
def storedNames (d : Declaration) : List String :=
  d.name :: (d.parents ++ d.interfaces ++ d.traits)

theorem namesListed_wellFormed {clause : ResolvedTree} (well : clause.WellNamed) :
    ∀ name ∈ namesListed clause, WellFormedName name := by
  intro name member
  obtain ⟨child, listed, named⟩ := List.mem_flatMap.mp member
  exact (well.child (List.mem_of_mem_filter listed)).value.names name named

variable {t : ResolvedTree} (well : t.WellNamed)
include well

theorem namesInClause_wellFormed (form : ClauseForm) :
    ∀ name ∈ namesInClause form t.children, WellFormedName name := by
  unfold namesInClause
  cases found : t.children.find? (·.value.kind == .clause form) with
  | none => simp
  | some clause => exact namesListed_wellFormed (well.child (List.mem_of_find?_eq_some found))

theorem traits_wellFormed :
    ∀ name ∈ (members t.children).flatMap traitsOf, WellFormedName name := by
  intro name member
  obtain ⟨part, listed, inTraits⟩ := List.mem_flatMap.mp member
  unfold members at listed
  cases found : t.children.find? (·.value.fills .body) with
  | none =>
    rw [found] at listed
    cases listed
  | some body =>
    rw [found] at listed
    have wellBody := well.child (List.mem_of_find?_eq_some found)
    unfold traitsOf at inTraits
    split at inTraits
    · exact namesListed_wellFormed (wellBody.child (List.mem_of_mem_filter listed)) name inTraits
    · cases inTraits

theorem storedNames_ofNode? {source : SourceFile} {d : Declaration}
    (made : ofNode? source t.value t.children = some d) :
    ∀ name ∈ d.storedNames, WellFormedName name := by
  obtain ⟨-, declares, parents, interfaces, traits⟩ := of_ofNode? made
  intro name member
  rw [storedNames, parents, interfaces, traits, List.mem_cons, List.mem_append,
    List.mem_append] at member
  rcases member with rfl | (inParents | inInterfaces) | inTraits
  · exact well.value.declares d.name declares
  · exact namesInClause_wellFormed well .parents name inParents
  · exact namesInClause_wellFormed well .interfaces name inInterfaces
  · exact traits_wellFormed well name inTraits

end Declaration

theorem Tree.WellNamed.declarations {t : ResolvedTree} (well : t.WellNamed) (source : SourceFile) :
    ∀ d ∈ t.declarations source, ∀ name ∈ d.storedNames, WellFormedName name := by
  induction t using Tree.induction with
  | node n children ih =>
    intro d member
    rw [Tree.declarations, declarationsAll_eq_flatMap] at member
    rcases List.mem_append.mp member with here | below
    · exact Declaration.storedNames_ofNode? well (Option.mem_toList.mp here)
    · obtain ⟨child, listed, inChild⟩ := List.mem_flatMap.mp below
      exact ih child listed (well.child listed) d inChild

/-- If the names that a source writes down are built from well-formed ones, then so are all names
that its record and its declarations keep, and each of them is found again behind a backslash. -/
theorem SourceFile.stored_names_qualified {source : SourceFile} (spelled : source.tree.SpelledWell)
    (rules : List Rule) (path : Pathname) (countsImports : Bool) :
    ∀ name ∈ (FileRecord.ofTree rules path countsImports source.tree).storedNames ++
        source.declarations.flatMap Declaration.storedNames,
      WellFormedName name ∧ ∀ s : Scope, s.meaning ("\\" ++ name) = some (.named name) := by
  intro name member
  have well : WellFormedName name := by
    rcases List.mem_append.mp member with inRecord | inDeclarations
    · exact FileRecord.storedNames_wellFormed spelled rules path countsImports name inRecord
    · obtain ⟨d, listed, inNames⟩ := List.mem_flatMap.mp inDeclarations
      exact spelled.resolve.declarations source d listed name inNames
  exact ⟨well, fun s => s.meaning_rooted well⟩

/-- A file in a namespace, with an import of a group, that refers to classes in every way. -/
def Tree.sampleSpelling : SyntaxTree :=
  let word (text : String) (field : Option Field) : SyntaxTree :=
    .node { kind := .name .qualified, text, field } []
  .node { kind := .other "program" }
    [.node { kind := .namespaceDefinition }
      [.node { kind := .namespaceName, text := "App\\Core", field := some .name } []],
     .node { kind := .importDeclaration }
      [.node { kind := .namespaceName, text := "\\Lib" } [],
       .node { kind := .importGroup }
        [.node { kind := .importClause } [word "Base" none],
         .node { kind := .importClause } [word "Sub\\Item" none, word "I" (some .shortName)]]],
     .node { kind := .declaration .plain }
      [word "Heir" (some .name),
       .node { kind := .clause .parents } [word "Base" none],
       .node { kind := .clause .interfaces } [word "namespace\\Face" none],
       .node { kind := .other "declaration_list", field := some .body }
        [.node { kind := .clause .traits } [word "\\T\\U" none],
         .node { kind := .typeExpression .normalForm, text := "( i & \\Q )|?int|Base\\Part" } [],
         .node { kind := .creation } [word "self" none],
         .node { kind := .constantAccess } [word "parent" none]]]]

theorem SourceFile.stored_names_qualified_sampleSpelling :
    let source : SourceFile := ⟨⟨"A.php"⟩, ⟨#[]⟩, Tree.sampleSpelling⟩
    let names := (FileRecord.ofTree Rule.standard ⟨"A.php"⟩ false source.tree).storedNames ++
      source.declarations.flatMap Declaration.storedNames
    source.tree.SpelledWell ∧
      names = ["App\\Core\\Heir", "Lib\\Base", "App\\Core\\Face", "T\\U", "Lib\\Sub\\Item", "Q",
        "Lib\\Base\\Part", "App\\Core\\Heir", "Lib\\Base", "Lib\\Base", "Lib\\Sub\\Item",
        "App\\Core\\Heir", "Lib\\Base", "App\\Core\\Face", "T\\U"] ∧
      ∀ name ∈ names,
        WellFormedName name ∧ ∀ s : Scope, s.meaning ("\\" ++ name) = some (.named name) := by
  have spelled : Tree.sampleSpelling.SpelledWell := by decide +kernel
  exact ⟨spelled, by decide +kernel,
    stored_names_qualified spelled Rule.standard ⟨"A.php"⟩ false⟩

end ClassGraph
