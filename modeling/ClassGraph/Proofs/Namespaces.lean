import ClassGraph.Proofs.Attribution

namespace ClassGraph

/-- The import that an event records. -/
def Event.import? : Event → Option Edge
  | .use target line => some ⟨target, .importStatement, line⟩
  | _ => none

theorem Recorder.imports_run (r : Recorder) (events : List Event) :
    (r.run events).imports = r.imports ++ events.filterMap Event.import? := by
  induction events generalizing r with
  | nil => exact (List.append_nil _).symm
  | cons event events ih =>
    have rest : ((r.step event).run events).imports =
        (r.step event).imports ++ events.filterMap Event.import? := ih (r.step event)
    refine rest.trans ?_
    cases event with
    | enter name => rfl
    | leave => rfl
    | edge e =>
      have kept : (r.step (.edge e)).imports = r.imports := by
        rw [step]
        split <;> rfl
      rw [kept]
      rfl
    | use target line =>
      rw [step, List.append_assoc]
      rfl

namespace Tree

/-- The imports that a walk through a tree records. -/
def importsAlong (rules : List Rule) (t : ResolvedTree) : List Edge :=
  (t.events rules).filterMap Event.import?

/-- Resolves several trees one after another, each of them entered. -/
def resolveEach (s : Scope) (ts : List SyntaxTree) : List ResolvedTree × Scope :=
  resolveAllIn s (Mark.plain ts) ts

theorem resolveEach_cons (s : Scope) (t : SyntaxTree) (ts : List SyntaxTree) :
    resolveEach s (t :: ts) =
      ((t.resolveIn s []).1 :: (resolveEach (t.resolveIn s []).2 ts).1,
        (resolveEach (t.resolveIn s []).2 ts).2) := by
  simp [resolveEach, resolveAllIn, Mark.plain]

theorem resolveEach_append (s : Scope) (first second : List SyntaxTree) :
    (resolveEach s (first ++ second)).1 =
      (resolveEach s first).1 ++ (resolveEach (resolveEach s first).2 second).1 := by
  induction first generalizing s with
  | nil => simp [resolveEach, resolveAllIn]
  | cons t first ih => rw [List.cons_append, resolveEach_cons, resolveEach_cons, ih, List.cons_append]

section Namespace

variable {t : SyntaxTree} (isNamespace : t.value.kind = .namespaceDefinition)
include isNamespace

/-- A namespace definition is resolved without regard to the scope it stands in. -/
theorem resolveIn_namespace (s s' : Scope) (given : List String) :
    (t.resolveIn s given).1 = (t.resolveIn s' given).1 := by
  obtain ⟨n, children⟩ := t
  rw [value_node] at isNamespace
  have inside : s.inside n children = s'.inside n children := by simp [Scope.inside, isNamespace]
  have marks : Mark.ofChildren s n children = Mark.ofChildren s' n children := by
    simp [Mark.ofChildren, isNamespace]
  have noted : s.resolveNode given n children = s'.resolveNode given n children := by
    simp [Scope.resolveNode, Scope.ownNames, Scope.declared, isNamespace]
  rw [resolveIn, resolveIn, inside, marks, noted]

theorem after_namespace_bodiless (bodiless : childFilling? .body t.children = none)
    (s : Scope) (given : List String) : (t.resolveIn s given).2 = Scope.ofNamespace t.children := by
  obtain ⟨n, children⟩ := t
  rw [value_node] at isNamespace
  rw [children_node] at bodiless ⊢
  simp [resolveIn, Scope.after, isNamespace, bodiless]

theorem after_namespace_braced (braced : (childFilling? .body t.children).isSome)
    (s : Scope) (given : List String) : (t.resolveIn s given).2 = s := by
  obtain ⟨n, children⟩ := t
  rw [value_node] at isNamespace
  rw [children_node] at braced
  simp [resolveIn, Scope.after, isNamespace, braced]

end Namespace

/-- A tree with a program at its root and certain trees below it. -/
structure IsProgram (t : SyntaxTree) (parts : List SyntaxTree) : Prop where
  kind : t.value.kind = .other "program"
  children : t.children = parts

namespace IsProgram

variable {t : SyntaxTree} {parts : List SyntaxTree} (program : t.IsProgram parts)
include program

theorem resolve_children : t.resolve.children = (resolveEach {} parts).1 := by
  obtain ⟨n, children⟩ := t
  obtain ⟨kind, rfl⟩ := program
  rw [value_node] at kind
  have inside : Scope.inside {} n children = {} := by
    simp [Scope.inside, Scope.enclosingInside, kind]
  have marks : Mark.ofChildren {} n children = Mark.plain children := by
    simp [Mark.ofChildren, kind]
  rw [resolve, resolveIn, inside, marks]
  rfl

theorem resolve_kind : t.resolve.value.kind = .other "program" := by
  obtain ⟨n, children⟩ := t
  exact program.kind

theorem undeclared : t.resolve.value.declares = none :=
  undeclared_of_kind (at?_nil _) (by rw [program.resolve_kind]; rfl)

theorem rules_silent (rules : List Rule) : rules.flatMap (·.events t.resolve) = [] := by
  have kind := program.resolve_kind
  refine List.flatMap_eq_nil_iff.mpr fun rule _ => ?_
  generalize t.resolve = u at kind ⊢
  obtain ⟨n, children⟩ := u
  rw [value_node] at kind
  cases rule <;> simp [Rule.events, kind]

/-- The classes of a program are those of its parts, one part after another. -/
theorem classes_record (rules : List Rule) (path : Pathname) :
    (FileRecord.ofTree rules path false t).classes =
      t.resolve.children.flatMap (attributed rules) := by
  have undeclared := program.undeclared
  rw [FileRecord.classes_eq_attributed]
  generalize t.resolve = u at undeclared ⊢
  obtain ⟨n, children⟩ := u
  rw [value_node] at undeclared
  rw [attributed_node, undeclared]
  simp

theorem imports_record (rules : List Rule) (path : Pathname) (countsImports : Bool) :
    (FileRecord.ofTree rules path countsImports t).imports =
      t.resolve.children.flatMap (importsAlong rules) := by
  have undeclared := program.undeclared
  have silent := program.rules_silent rules
  have recorded : (FileRecord.ofTree rules path countsImports t).imports =
      t.resolve.importsAlong rules := Recorder.imports_run {} (t.resolve.events rules)
  rw [recorded]
  generalize t.resolve = u at undeclared silent ⊢
  obtain ⟨n, children⟩ := u
  rw [value_node] at undeclared
  rw [importsAlong, events_node, undeclared, silent]
  simp only [Option.map_none, Option.toList_none, List.nil_append, List.append_nil,
    List.filterMap_flatMap]
  rfl

end IsProgram

variable {first last : List SyntaxTree} {space : SyntaxTree}
  (isNamespace : space.value.kind = .namespaceDefinition)
include isNamespace

/-- Behind a namespace without a body nothing is left of what stood before it. -/
theorem resolveEach_bodiless (bodiless : childFilling? .body space.children = none) (s : Scope) :
    (resolveEach s (first ++ space :: last)).1 =
      (resolveEach s first).1 ++ (resolveEach s (space :: last)).1 := by
  have sameTree := resolveIn_namespace isNamespace (resolveEach s first).2 s []
  have sameScope : (space.resolveIn (resolveEach s first).2 []).2 = (space.resolveIn s []).2 := by
    rw [after_namespace_bodiless isNamespace bodiless, after_namespace_bodiless isNamespace bodiless]
  rw [resolveEach_append, resolveEach_cons, resolveEach_cons, sameTree, sameScope]

/-- A namespace with a body stands between its neighbours as if it were alone. -/
theorem resolveEach_braced (braced : (childFilling? .body space.children).isSome) (s : Scope) :
    (resolveEach s (first ++ space :: last)).1 =
      (resolveEach s first).1 ++ (resolveEach s [space]).1 ++
        (resolveEach (resolveEach s first).2 last).1 := by
  have sameTree := resolveIn_namespace isNamespace (resolveEach s first).2 s []
  have alone : (resolveEach s [space]).1 = [(space.resolveIn s []).1] := by
    rw [resolveEach_cons]
    rfl
  rw [resolveEach_append, resolveEach_cons, after_namespace_braced isNamespace braced, sameTree, alone,
    List.append_assoc, List.singleton_append]

end Tree

/-- A namespace without a body cuts a program in two: its names, classes and imports are those of
what stands before the namespace, then those of the rest by itself. A namespace with a body can be
taken out: its part is what it is alone, and the others are what they are without it. -/
theorem FileRecord.namespaces_isolated (rules : List Rule) (path : Pathname)
    {first last : List SyntaxTree} {space whole : SyntaxTree}
    (isNamespace : space.value.kind = .namespaceDefinition)
    (isWhole : whole.IsProgram (first ++ space :: last)) :
    let record := ofTree rules path false
    (childFilling? .body space.children = none → ∀ before behind : SyntaxTree,
      before.IsProgram first → behind.IsProgram (space :: last) →
      whole.resolve.children = before.resolve.children ++ behind.resolve.children ∧
      (record whole).classes = (record before).classes ++ (record behind).classes ∧
      (record whole).imports = (record before).imports ++ (record behind).imports) ∧
    ((childFilling? .body space.children).isSome → ∀ before alone others : SyntaxTree,
      before.IsProgram first → alone.IsProgram [space] → others.IsProgram (first ++ last) →
      ∃ resolved classes imports,
        whole.resolve.children = before.resolve.children ++ alone.resolve.children ++ resolved ∧
        others.resolve.children = before.resolve.children ++ resolved ∧
        (record whole).classes = (record before).classes ++ (record alone).classes ++ classes ∧
        (record others).classes = (record before).classes ++ classes ∧
        (record whole).imports = (record before).imports ++ (record alone).imports ++ imports ∧
        (record others).imports = (record before).imports ++ imports) := by
  intro record
  constructor
  · intro bodiless before behind isBefore isBehind
    have parts : whole.resolve.children = before.resolve.children ++ behind.resolve.children := by
      rw [isWhole.resolve_children, isBefore.resolve_children, isBehind.resolve_children]
      exact Tree.resolveEach_bodiless isNamespace bodiless {}
    refine ⟨parts, ?_, ?_⟩
    · rw [isWhole.classes_record, isBefore.classes_record, isBehind.classes_record, parts,
        List.flatMap_append]
    · rw [isWhole.imports_record, isBefore.imports_record, isBehind.imports_record, parts,
        List.flatMap_append]
  · intro braced before alone others isBefore isAlone isOthers
    let resolved := (Tree.resolveEach (Tree.resolveEach {} first).2 last).1
    have parts : whole.resolve.children =
        before.resolve.children ++ alone.resolve.children ++ resolved := by
      rw [isWhole.resolve_children, isBefore.resolve_children, isAlone.resolve_children]
      exact Tree.resolveEach_braced isNamespace braced {}
    have outside : others.resolve.children = before.resolve.children ++ resolved := by
      rw [isOthers.resolve_children, isBefore.resolve_children]
      exact Tree.resolveEach_append {} first last
    refine ⟨resolved, resolved.flatMap (Tree.attributed rules),
      resolved.flatMap (Tree.importsAlong rules), parts, outside, ?_, ?_, ?_, ?_⟩
    · rw [isWhole.classes_record, isBefore.classes_record, isAlone.classes_record, parts,
        List.flatMap_append, List.flatMap_append]
    · rw [isOthers.classes_record, isBefore.classes_record, outside, List.flatMap_append]
    · rw [isWhole.imports_record, isBefore.imports_record, isAlone.imports_record, parts,
        List.flatMap_append, List.flatMap_append]
    · rw [isOthers.imports_record, isBefore.imports_record, outside, List.flatMap_append]

namespace Tree

/-- An import of one class. -/
def sampleImport (target : String) : SyntaxTree :=
  .node { kind := .importDeclaration }
    [.node { kind := .importClause } [.node { kind := .name .qualified, text := target } []]]

/-- A class that extends `Base`. -/
def sampleHeir (name : String) : SyntaxTree :=
  .node { kind := .declaration .plain }
    [.node { kind := .name .simple, field := some .name, text := name } [],
     .node { kind := .clause .parents } [.node { kind := .name .simple, text := "Base" } []]]

/-- A namespace, with the trees of its body if it has one. -/
def sampleSpace (name : String) (body : Option (List SyntaxTree)) : SyntaxTree :=
  .node { kind := .namespaceDefinition }
    (.node { kind := .namespaceName, field := some .name, text := name } [] ::
      (body.map (.node { kind := .other "compound_statement", field := some .body })).toList)

def sampleProgram (parts : List SyntaxTree) : SyntaxTree :=
  .node { kind := .other "program" } parts

theorem sampleProgram_isProgram (parts : List SyntaxTree) : (sampleProgram parts).IsProgram parts :=
  ⟨rfl, rfl⟩

end Tree

/-- The same import and the same parent mean different classes before, inside and behind. -/
theorem FileRecord.namespaces_isolated_heirs :
    let record := ofTree Rule.standard ⟨"A.php"⟩ false
    let first := [Tree.sampleImport "X\\Base", Tree.sampleHeir "A"]
    let braced := Tree.sampleSpace "N" (some [Tree.sampleImport "Y\\Base", Tree.sampleHeir "B"])
    let bodiless := Tree.sampleSpace "N" none
    let last := [Tree.sampleHeir "C"]
    let targets (t : SyntaxTree) := (record t).classes.map fun c => (c.name, c.edges.map (·.target))
    targets (Tree.sampleProgram (first ++ braced :: last)) =
        [("A", ["X\\Base"]), ("N\\B", ["Y\\Base"]), ("C", ["X\\Base"])] ∧
      targets (Tree.sampleProgram (first ++ bodiless :: last)) =
        [("A", ["X\\Base"]), ("N\\C", ["N\\Base"])] ∧
      (record (Tree.sampleProgram (first ++ bodiless :: last))).classes =
        (record (Tree.sampleProgram first)).classes ++
          (record (Tree.sampleProgram (bodiless :: last))).classes ∧
      ∃ classes, (record (Tree.sampleProgram (first ++ braced :: last))).classes =
          (record (Tree.sampleProgram first)).classes ++
            (record (Tree.sampleProgram [braced])).classes ++ classes ∧
        (record (Tree.sampleProgram (first ++ last))).classes =
          (record (Tree.sampleProgram first)).classes ++ classes := by
  intro record first braced bodiless last targets
  refine ⟨by decide +kernel, by decide +kernel, ?_, ?_⟩
  · have isNamespace : bodiless.value.kind = .namespaceDefinition := rfl
    obtain ⟨cut, -⟩ := namespaces_isolated Rule.standard ⟨"A.php"⟩ isNamespace
      (Tree.sampleProgram_isProgram (first ++ bodiless :: last))
    have parts := cut rfl _ _ (Tree.sampleProgram_isProgram first)
      (Tree.sampleProgram_isProgram (bodiless :: last))
    exact parts.2.1
  · have isNamespace : braced.value.kind = .namespaceDefinition := rfl
    obtain ⟨-, taken⟩ := namespaces_isolated Rule.standard ⟨"A.php"⟩ isNamespace
      (Tree.sampleProgram_isProgram (first ++ braced :: last))
    obtain ⟨-, classes, -, -, -, whole, others, -⟩ := taken rfl _ _ _
      (Tree.sampleProgram_isProgram first) (Tree.sampleProgram_isProgram [braced])
      (Tree.sampleProgram_isProgram (first ++ last))
    exact ⟨classes, whole, others⟩

end ClassGraph
