import Mathlib.Data.List.Flatten
import Mathlib.Data.List.Forall2
import ClassGraph.Declaration.Basic
import ClassGraph.Proofs.Annotation

namespace ClassGraph

/-- The targets of the edges of a kind. -/
def Edge.targets (kind : EdgeKind) (edges : List Edge) : List String :=
  (edges.filter (·.kind = kind)).map (·.target)

/-- No class of a tree has another class for its body. -/
def Tree.KeepsBodiesApart (t : SyntaxTree) : Prop :=
  ∀ p ∈ t.places, ∀ u ∈ t.at? p, u.value.kind.isDeclaration = true →
    ∀ body ∈ childFilling? .body u.children, body.value.kind.isDeclaration = false

instance (t : SyntaxTree) : Decidable t.KeepsBodiesApart :=
  inferInstanceAs (Decidable (∀ p ∈ t.places, _))

namespace Declaration

theorem ofNode?_of_declares (source : SourceFile) {n : ResolvedNode} {form : ClassForm} {name : String}
    (kind : n.kind = .declaration form) (declares : n.declares = some name)
    (children : List ResolvedTree) : ∃ d, ofNode? source n children = some d := by
  rw [ofNode?, kind, declares]
  exact ⟨_, rfl⟩

/-- What a declaration takes from its node. -/
theorem of_ofNode? {source : SourceFile} {n : ResolvedNode} {children : List ResolvedTree}
    {d : Declaration} (made : ofNode? source n children = some d) :
    n.kind.isDeclaration = true ∧ n.declares = some d.name ∧
      d.parents = namesInClause .parents children ∧
      d.interfaces = namesInClause .interfaces children ∧
      d.traits = (members children).flatMap traitsOf := by
  unfold ofNode? at made
  split at made
  · rename_i form name kind declares
    cases made
    rw [kind, declares]
    exact ⟨rfl, rfl, rfl, rfl, rfl⟩
  · cases made

end Declaration

theorem forall₂_filterMap {α β γ : Type} {R : β → γ → Prop} {f : α → Option β} {g : α → Option γ}
    {l : List α} (agree : ∀ a ∈ l, f a = none ∧ g a = none ∨
      ∃ b c, f a = some b ∧ g a = some c ∧ R b c) :
    List.Forall₂ R (l.filterMap f) (l.filterMap g) := by
  induction l with
  | nil => exact .nil
  | cons a l ih =>
    have rest := ih fun b member => agree b (List.mem_cons_of_mem a member)
    rw [List.filterMap_cons, List.filterMap_cons]
    rcases agree a List.mem_cons_self with ⟨noLeft, noRight⟩ | ⟨b, c, left, right, related⟩
    · rw [noLeft, noRight]
      exact rest
    · rw [left, right]
      exact .cons related rest

namespace Tree

theorem declarationsAll_eq_flatMap (source : SourceFile) (ts : List ResolvedTree) :
    declarationsAll source ts = ts.flatMap (declarations source) := by
  induction ts with
  | nil => rfl
  | cons t ts ih => rw [declarationsAll, ih, List.flatMap_cons]

theorem declarations_eq_filterMap (source : SourceFile) (t : ResolvedTree) :
    t.declarations source = t.places.filterMap fun p =>
      (t.at? p).bind fun u => Declaration.ofNode? source u.value u.children := by
  induction t using Tree.induction with
  | node n children ih =>
    rw [filterMap_places_node, declarations, declarationsAll_eq_flatMap, List.flatMap_congr ih]
    rfl

/-- The declarations of a tree stand at the places that declare classes. -/
theorem declarations_declaring (source : SourceFile) (t : SyntaxTree) :
    List.Forall₂ (fun d declared => ∃ u, t.resolve.at? declared.1 = some u ∧
        u.value.declares = some declared.2 ∧
        Declaration.ofNode? source u.value u.children = some d)
      (t.resolve.declarations source) t.resolve.declaring := by
  rw [declarations_eq_filterMap, declaring]
  refine forall₂_filterMap fun p inPlaces => ?_
  obtain ⟨u, here⟩ := Option.isSome_iff_exists.mp (mem_places.mp inPlaces)
  rw [declaredAt, here, Option.bind_some, Option.bind_some]
  cases declares : u.value.declares with
  | none =>
    refine .inl ⟨?_, rfl⟩
    cases made : Declaration.ofNode? source u.value u.children with
    | none => rfl
    | some d =>
      rw [(Declaration.of_ofNode? made).2.1] at declares
      cases declares
  | some name =>
    obtain ⟨form, kind⟩ := declaration_of_declares here declares
    obtain ⟨d, made⟩ := Declaration.ofNode?_of_declares source kind declares u.children
    exact .inr ⟨d, (p, name), made, rfl, u, here, declares, made⟩

end Tree

namespace Edge

theorem targets_append (kind : EdgeKind) (first second : List Edge) :
    targets kind (first ++ second) = targets kind first ++ targets kind second := by
  rw [targets, List.filter_append, List.map_append]
  rfl

theorem targets_flatMap {α : Type} (kind : EdgeKind) (f : α → List Edge) (l : List α) :
    targets kind (l.flatMap f) = l.flatMap fun a => targets kind (f a) := by
  rw [targets, List.filter_flatMap, List.map_flatMap]
  rfl

theorem targets_edgesAs (kind : EdgeKind) (u : ResolvedTree) :
    targets kind (Tree.edgesAs (some kind) u) = u.value.names := by
  simp [targets, Tree.edgesAs, List.filter_map, Function.comp_def]

/-- The standard rules record at a clause what it lists. -/
theorem targets_clause {u : ResolvedTree} {form : ClauseForm} (kind : u.value.kind = .clause form) :
    targets form.edgeKind (Rule.edgesAt Rule.standard u) = Declaration.namesListed u := by
  obtain ⟨n, children⟩ := u
  rw [Tree.value_node] at kind
  have listed : Rule.edgesAt Rule.standard (.node n children) =
      (listedNames children).flatMap (Tree.edgesAs (some form.edgeKind)) := by
    cases form <;>
      simp [Rule.edgesAt, Rule.standard, Rule.events, kind, ClauseForm.edgeKind,
        Tree.filterMap_flatMap_edgesTo]
  rw [listed, targets_flatMap]
  simp only [targets_edgesAs]
  rfl

end Edge

theorem sublist_flatMap_of_mem {α β : Type} {l : List α} {a : α} (member : a ∈ l) (f : α → List β) :
    (f a).Sublist (l.flatMap f) := by
  rw [List.flatMap_def]
  exact List.sublist_flatten_of_mem (List.mem_map_of_mem member)

namespace Declaration

/-- What a clause lists is found among the edges recorded inside it. -/
theorem namesListed_sublist {u : ResolvedTree} {form : ClauseForm} (kind : u.value.kind = .clause form)
    (undeclared : u.value.declares = none) : (namesListed u).Sublist
      (Edge.targets form.edgeKind (u.gather (Rule.edgesAt Rule.standard) none)) := by
  rw [← Edge.targets_clause kind]
  obtain ⟨n, children⟩ := u
  rw [Tree.value_node] at undeclared
  rw [Tree.gather_none _ undeclared, Edge.targets_append]
  exact List.sublist_append_left _ _

variable {n : ResolvedNode} {children : List ResolvedTree} {name : String}

/-- What is found inside a child of a class is found in the class. -/
theorem child_sublist (declares : n.declares = some name) {child : ResolvedTree}
    (member : child ∈ children) (kind : EdgeKind) :
    (Edge.targets kind (child.gather (Rule.edgesAt Rule.standard) none)).Sublist
      (Edge.targets kind
        ((Tree.node n children).gather (Rule.edgesAt Rule.standard) (some []))) := by
  rw [Tree.gather_self _ declares, Edge.targets_append, Edge.targets_flatMap]
  exact (sublist_flatMap_of_mem member
    fun child => Edge.targets kind (child.gather (Rule.edgesAt Rule.standard) none)).trans
      (List.sublist_append_right _ _)

theorem namesInClause_sublist (declares : n.declares = some name) {form : ClauseForm}
    (undeclared : ∀ child ∈ children, child.value.kind = .clause form → child.value.declares = none) :
    (namesInClause form children).Sublist (Edge.targets form.edgeKind
      ((Tree.node n children).gather (Rule.edgesAt Rule.standard) (some []))) := by
  unfold namesInClause
  cases found : children.find? (·.value.kind == .clause form) with
  | none => exact List.nil_sublist _
  | some clause =>
    have member := List.mem_of_find?_eq_some found
    have kind : clause.value.kind = .clause form := by simpa using List.find?_some found
    exact (namesListed_sublist kind (undeclared clause member kind)).trans
      (child_sublist declares member _)

theorem traits_sublist (declares : n.declares = some name)
    (body : ∀ b, children.find? (·.value.fills .body) = some b → b.value.declares = none ∧
      ∀ child ∈ b.children, child.value.kind = .clause .traits → child.value.declares = none) :
    ((members children).flatMap traitsOf).Sublist (Edge.targets .usesTrait
      ((Tree.node n children).gather (Rule.edgesAt Rule.standard) (some []))) := by
  unfold members
  cases found : children.find? (·.value.fills .body) with
  | none => exact List.nil_sublist _
  | some b =>
    obtain ⟨undeclared, inBody⟩ := body b found
    have inMember : ∀ child ∈ b.children, (traitsOf child).Sublist
        (Edge.targets .usesTrait (child.gather (Rule.edgesAt Rule.standard) none)) := by
      intro child member
      unfold traitsOf
      split
      · rename_i kind
        exact namesListed_sublist kind (inBody child member kind)
      · exact List.nil_sublist _
    have whole : (b.children.flatMap fun child =>
        Edge.targets .usesTrait (child.gather (Rule.edgesAt Rule.standard) none)).Sublist
          (Edge.targets .usesTrait (b.gather (Rule.edgesAt Rule.standard) none)) := by
      obtain ⟨m, inside⟩ := b
      rw [Tree.value_node] at undeclared
      rw [Tree.gather_none _ undeclared, Edge.targets_append, Edge.targets_flatMap]
      exact List.sublist_append_right _ _
    have named : ((b.children.filter (·.value.named)).flatMap traitsOf).Sublist
        (b.children.flatMap traitsOf) := List.filter_sublist.flatMap _
    have inBoth := (named.trans (List.Sublist.flatMap_right _ inMember)).trans whole
    exact inBoth.trans (child_sublist declares (List.mem_of_find?_eq_some found) _)

end Declaration

theorem Tree.body_undeclared {t : SyntaxTree} (apart : t.KeepsBodiesApart) {p : Place}
    {u b : ResolvedTree} (here : t.resolve.at? p = some u) (kind : u.value.kind.isDeclaration = true)
    (found : u.children.find? (·.value.fills .body) = some b) :
    b.value.kind.isDeclaration = false := by
  obtain ⟨source, s, mark, place, rfl⟩ := at?_resolve here
  have same := congrArg (List.find? (·.fills .body)) (nodes_resolveMarked s mark source)
  rw [List.find?_map, List.find?_map] at same
  obtain ⟨body, inSource, sameNode⟩ :=
    Option.map_eq_some_iff.mp (same.symm.trans (congrArg (Option.map _) found))
  rw [toNode_resolveMarked] at kind
  have sameKind : body.value.kind = b.value.kind := congrArg Node.kind sameNode
  rw [← sameKind]
  exact apart p (mem_places.mpr (place ▸ rfl)) source place kind body inSource

theorem Tree.undeclared_of_clause {t : SyntaxTree} {p : Place} {u child : ResolvedTree}
    (here : t.resolve.at? p = some u) (member : child ∈ u.children) {form : ClauseForm}
    (kind : child.value.kind = .clause form) : child.value.declares = none := by
  obtain ⟨i, below⟩ := at?_child here member
  exact undeclared_of_kind below (by rw [kind]; rfl)

namespace SourceFile

theorem names_declarations (source : SourceFile) :
    source.declarations.map (·.name) = source.tree.resolve.declaring.map (·.2) := by
  rw [← List.forall₂_eq_eq_eq, List.forall₂_map_left_iff, List.forall₂_map_right_iff]
  refine (Tree.declarations_declaring source source.tree).imp ?_
  rintro d ⟨p, name⟩ ⟨u, -, declares, made⟩
  have sameName := (Declaration.of_ofNode? made).2.1
  rw [declares] at sameName
  exact (Option.some.inj sameName).symm

/-- What a declaration says of its relations is found among the edges that its node owns. -/
theorem declarations_sublists (source : SourceFile) (apart : source.tree.KeepsBodiesApart) :
    List.Forall₂ (fun d declared => d.name = declared.2 ∧
        d.parents.Sublist (Edge.targets .inherits
          (source.tree.resolve.gather (Rule.edgesAt Rule.standard) (some declared.1))) ∧
        d.interfaces.Sublist (Edge.targets .implements
          (source.tree.resolve.gather (Rule.edgesAt Rule.standard) (some declared.1))) ∧
        d.traits.Sublist (Edge.targets .usesTrait
          (source.tree.resolve.gather (Rule.edgesAt Rule.standard) (some declared.1))))
      source.declarations source.tree.resolve.declaring := by
  refine (Tree.declarations_declaring source source.tree).imp ?_
  rintro d ⟨p, name⟩ ⟨u, here, declares, made⟩
  obtain ⟨kind, sameName, parents, interfaces, traits⟩ := Declaration.of_ofNode? made
  have body : ∀ b, u.children.find? (·.value.fills .body) = some b → b.value.declares = none ∧
      ∀ child ∈ b.children, child.value.kind = .clause .traits → child.value.declares = none := by
    intro b found
    obtain ⟨i, inside⟩ := Tree.at?_child here (List.mem_of_find?_eq_some found)
    refine ⟨Tree.undeclared_of_kind inside (Tree.body_undeclared apart here kind found), ?_⟩
    intro child member clause
    exact Tree.undeclared_of_clause inside member clause
  have clause (form : ClauseForm) : ∀ child ∈ u.children, child.value.kind = .clause form →
      child.value.declares = none := fun child member => Tree.undeclared_of_clause here member
  rw [Tree.gather_at _ here, parents, interfaces, traits]
  rw [declares] at sameName
  obtain ⟨n, children⟩ := u
  exact ⟨(Option.some.inj sameName).symm, Declaration.namesInClause_sublist declares (clause .parents),
    Declaration.namesInClause_sublist declares (clause .interfaces),
    Declaration.traits_sublist declares body⟩

/-- The declarations of a source are the classes of its record, in the same order, and there are as
many as nodes that declare a class. If no class has another one for its body, a declaration's
parents, interfaces and traits stand in order among the targets of its class. -/
theorem declarations_match_classes (source : SourceFile) (path : Pathname) (countsImports : Bool) :
    (∀ rules, source.declarations.map (·.name) =
      (FileRecord.ofTree rules path countsImports source.tree).classes.map (·.name)) ∧
    source.declarationCount = source.declarations.length ∧
    (source.tree.KeepsBodiesApart → List.Forall₂ (fun d c => d.name = c.name ∧
        d.parents.Sublist (Edge.targets .inherits c.edges) ∧
        d.interfaces.Sublist (Edge.targets .implements c.edges) ∧
        d.traits.Sublist (Edge.targets .usesTrait c.edges))
      source.declarations
      (FileRecord.ofTree Rule.standard path countsImports source.tree).classes) := by
  refine ⟨?_, ?_, ?_⟩
  · intro rules
    rw [names_declarations, FileRecord.names_classes]
  · have names := congrArg List.length source.names_declarations
    rw [List.length_map, Tree.declaring_names] at names
    exact names.symm
  · intro apart
    rw [FileRecord.classes_eq_attributed, Tree.attributed, List.map_map, List.forall₂_map_right_iff]
    refine (source.declarations_sublists apart).imp ?_
    rintro d ⟨p, name⟩ ⟨sameName, parents, interfaces, traits⟩
    simp only [Function.comp_apply, Edge.targets_append]
    exact ⟨sameName, parents.trans (List.sublist_append_left _ _),
      interfaces.trans (List.sublist_append_left _ _), traits.trans (List.sublist_append_left _ _)⟩

theorem declarations_match_classes_sampleClass :
    let source : SourceFile := ⟨⟨"A.php"⟩, ⟨#[]⟩, Tree.sampleClass⟩
    source.tree.KeepsBodiesApart ∧
      (source.declarations.map fun d => (d.name, d.parents, d.traits)) = [("A", ["B"], ["T"])] ∧
      List.Forall₂ (fun d c => d.name = c.name ∧
          d.parents.Sublist (Edge.targets .inherits c.edges) ∧
          d.interfaces.Sublist (Edge.targets .implements c.edges) ∧
          d.traits.Sublist (Edge.targets .usesTrait c.edges))
        source.declarations (FileRecord.ofTree Rule.standard ⟨"A.php"⟩ true source.tree).classes := by
  have apart : Tree.sampleClass.KeepsBodiesApart := by decide
  obtain ⟨-, -, related⟩ :=
    declarations_match_classes ⟨⟨"A.php"⟩, ⟨#[]⟩, Tree.sampleClass⟩ ⟨"A.php"⟩ true
  exact ⟨apart, by decide +kernel, related apart⟩

end SourceFile

end ClassGraph
