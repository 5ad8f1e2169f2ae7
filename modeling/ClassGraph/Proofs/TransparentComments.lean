import ClassGraph.Proofs.CommentedPass
import ClassGraph.Proofs.DeclaredClasses

namespace ClassGraph

namespace Tree

section Events

variable {u u' : ResolvedTree}

/-- What does not depend on the place of a node is the same in trees that tell the same. -/
theorem TellsSame.congr {β : Type} (tells : TellsSame u u') (q : ResolvedNode → β)
    (blind : ∀ n : ResolvedNode, q n.unplaced = q n) : q u.value = q u'.value := by
  cases tells with
  | node same => exact ResolvedNode.congr_of_unplaced same q blind

theorem TellsSame.edgesTo (tells : TellsSame u u') (kind : EdgeKind) :
    edgesTo kind u = edgesTo kind u' :=
  tells.congr (fun n => n.names.map fun target => Event.edge ⟨target, kind, n.line⟩) fun _ => rfl

theorem IsSilent.edgesTo (silent : IsSilent u) (kind : EdgeKind) : edgesTo kind u = [] := by
  cases silent with
  | leaf _ _ _ names =>
    rw [ClassGraph.edgesTo, Tree.value_node, names]
    rfl

theorem IsSilent.kind (silent : IsSilent u) : u.value.kind = .comment := by
  cases silent with
  | leaf kind => exact kind

theorem IsSilent.named (silent : IsSilent u) : u.value.named = true := by
  cases silent with
  | leaf _ named => exact named

theorem IsSilent.unfilled (silent : IsSilent u) (field : Field) : u.value.fills field = false := by
  cases silent with
  | leaf _ _ none =>
    rw [Tree.value_node, Node.fills, none]
    rfl

theorem IsSilent.unlisted (silent : IsSilent u) : u.value.isListedName = false := by
  rw [Node.isListedName, Node.isName, silent.kind, Bool.and_false]

theorem IsSilent.events (silent : IsSilent u) (rules : List Rule) : u.events rules = [] := by
  cases silent with
  | @leaf n kind _ _ _ declares =>
    have nothing : rules.flatMap (·.events (node n [])) = [] := by
      refine List.flatMap_eq_nil_iff.mpr fun rule _ => ?_
      cases rule <;> simp only [Rule.events, kind]
    rw [events_node, declares, nothing]
    rfl

variable {n n' : ResolvedNode} {free : Bool} {children children' : List ResolvedTree}
  (same : n.unplaced = n'.unplaced)
  (spread : Spread TellsSame IsSilent (·.value.named) free children children')
include spread

theorem rel_filling (field : Field) : Option.Rel TellsSame
    (children.find? (·.value.fills field)) (children'.find? (·.value.fills field)) :=
  spread.find? (fun _ _ tells => tells.congr (·.fills field) fun _ => rfl)
    fun _ silent => silent.unfilled field

theorem forall₂_listed : List.Forall₂ TellsSame (listedNames children) (listedNames children') :=
  spread.filter (fun _ _ tells => tells.congr (·.isListedName) fun _ => rfl)
    fun _ silent => silent.unlisted

theorem edges_first (kind : EdgeKind)
    (unnamed : free = true → ∀ first ∈ children.find? (·.value.named), first.value.names = []) :
    (children.find? (·.value.named)).toList.flatMap (edgesTo kind) =
      (children'.find? (·.value.named)).toList.flatMap (edgesTo kind) := by
  rcases spread.first (fun _ _ tells => tells.congr (·.named) fun _ => rfl)
    fun _ silent => silent.named with related | ⟨isFree, c, silent, found⟩
  · exact flatMap_eq_of_rel related fun _ _ tells => tells.edgesTo kind
  · have nothing : (children.find? (·.value.named)).toList.flatMap (edgesTo kind) = [] := by
      refine List.flatMap_eq_nil_iff.mpr fun first isFirst => ?_
      rw [edgesTo, unnamed isFree first (Option.mem_toList.mp isFirst)]
      rfl
    rw [nothing, found, Option.toList_some, List.flatMap_singleton, silent.edgesTo]

include same

/-- A rule records the same at nodes that tell the same. -/
theorem ruleEvents_spread (rule : Rule)
    (unnamed : free = true → n.kind.readsFirst = true →
      ∀ first ∈ children.find? (·.value.named), first.value.names = []) :
    rule.events (node n children) = rule.events (node n' children') := by
  have tells : TellsSame (node n children) (node n' children') := .node same unnamed spread
  have kind : n.kind = n'.kind := tells.congr (·.kind) fun _ => rfl
  have imports : n.imports.map (Event.use · n.line) = n'.imports.map (Event.use · n'.line) :=
    tells.congr (fun n => n.imports.map (Event.use · n.line)) fun _ => rfl
  have listed (kind : EdgeKind) := flatMap_eq_of_forall₂ (forall₂_listed spread)
    (f := ClassGraph.edgesTo kind) fun _ _ tells => tells.edgesTo kind
  have filling (field : Field) (kind : EdgeKind) := flatMap_eq_of_rel (rel_filling spread field)
    (f := ClassGraph.edgesTo kind) fun _ _ tells => tells.edgesTo kind
  have test : isClassTest (children.map (·.value.toNode)) =
      isClassTest (children'.map (·.value.toNode)) :=
    isClassTest_of_rel (rel_filling spread .operator) fun _ _ tells =>
      tells.congr (·.kind) fun _ => rfl
  simp only [Rule.events, ← kind, ← test]
  -- The cases stand in the order of the rules; the fifth and the eighth read the first named child.
  split
  case h_1 | h_2 | h_3 => exact listed _
  case h_4 => exact tells.edgesTo _
  case h_5 known | h_8 known =>
    exact edges_first spread _ fun isFree => unnamed isFree (by rw [known]; rfl)
  case h_6 | h_7 => exact filling .scope _
  case h_9 => rw [filling .right]
  case h_10 => exact imports
  case h_11 => rfl

omit same spread

/-- A walk records the same in trees that tell the same. -/
theorem TellsSame.events (tells : TellsSame u u') (rules : List Rule) :
    u.events rules = u'.events rules := by
  induction u using Tree.induction generalizing u' with
  | node n children ih =>
    cases tells with
    | @node _ n' free _ children' same unnamed spread =>
      have declares : n.declares = n'.declares :=
        ResolvedNode.congr_of_unplaced same (·.declares) fun _ => rfl
      have own : rules.flatMap (·.events (Tree.node n children)) =
          rules.flatMap (·.events (Tree.node n' children')) :=
        List.flatMap_congr fun rule _ => ruleEvents_spread same spread rule unnamed
      have below : children.flatMap (Tree.events rules) = children'.flatMap (Tree.events rules) :=
        (spread.imp fun child member _ tells => ih child member tells).flatMap_eq
          (fun _ _ same => same) fun _ silent => silent.events rules
      rw [events_node, events_node, declares, own, below]

end Events

end Tree

/-- A declaration apart from where it stands. -/
def Declaration.unplaced (d : Declaration) : Declaration :=
  { d with start := 0, stop := 0, source := default }

section Declarations

open ClassGraph.Tree Declaration

variable {u u' : ResolvedTree}

theorem Tree.TellsSame.namesListed (tells : TellsSame u u') : namesListed u = namesListed u' := by
  cases tells with
  | node _ _ spread =>
    exact flatMap_eq_of_forall₂ (forall₂_listed spread) fun _ _ tells =>
      tells.congr (·.names) fun _ => rfl

theorem Tree.TellsSame.traitsOf (tells : TellsSame u u') : traitsOf u = traitsOf u' := by
  rw [Declaration.traitsOf, Declaration.traitsOf, tells.congr (·.kind) fun _ => rfl,
    tells.namesListed]

theorem Tree.TellsSame.methodOf? (tells : TellsSame u u') : methodOf? u = methodOf? u' := by
  have kind : u.value.kind = u'.value.kind := tells.congr (·.kind) fun _ => rfl
  rw [Declaration.methodOf?, Declaration.methodOf?, kind]
  cases tells with
  | node _ _ spread =>
    have name := map_eq_of_rel (rel_filling spread .name) (f := (·.value.text)) fun _ _ tells =>
      tells.congr (·.text) fun _ => rfl
    exact congrArg (ite _ · none) name

variable {n n' : ResolvedNode} {free : Bool} {children children' : List ResolvedTree}
  (spread : Spread TellsSame IsSilent (·.value.named) free children children')
include spread

theorem namesInClause_spread (form : ClauseForm) :
    namesInClause form children = namesInClause form children' := by
  have clauses := spread.find? (p := (·.value.kind == .clause form))
    (fun _ _ tells => tells.congr (·.kind == .clause form) fun _ => rfl)
    (fun _ silent => by rw [silent.kind]; rfl)
  exact congrArg (·.getD []) (map_eq_of_rel clauses fun _ _ tells => tells.namesListed)

theorem members_spread : ∃ free, Spread TellsSame IsSilent (·.value.named) free (members children)
    (members children') := by
  have body := rel_filling spread .body
  rw [members, members]
  generalize children.find? _ = left at body ⊢
  generalize children'.find? _ = right at body ⊢
  cases body with
  | none => exact ⟨false, .nil⟩
  | some tells =>
    cases tells with
    | @node _ _ free _ _ _ _ inner =>
      exact ⟨free, inner.filter_opens (fun _ _ tells => tells.congr (·.named) fun _ => rfl)
        fun _ silent => silent.named⟩

theorem ofNode?_spread (same : n.unplaced = n'.unplaced) (source source' : SourceFile) :
    (ofNode? source n children).map unplaced = (ofNode? source' n' children').map unplaced := by
  have kind : n.kind = n'.kind := ResolvedNode.congr_of_unplaced same (·.kind) fun _ => rfl
  have declares : n.declares = n'.declares :=
    ResolvedNode.congr_of_unplaced same (·.declares) fun _ => rfl
  have line : n.line = n'.line := ResolvedNode.congr_of_unplaced same (·.line) fun _ => rfl
  obtain ⟨_, inside⟩ := members_spread spread
  have traits := inside.flatMap_eq (f := Declaration.traitsOf) (fun _ _ tells => tells.traitsOf)
    fun _ silent => by rw [Declaration.traitsOf, silent.kind]; rfl
  have methods := inside.filterMap_eq (f := Declaration.methodOf?) (fun _ _ tells => tells.methodOf?)
    fun _ silent => by rw [Declaration.methodOf?, silent.kind]; rfl
  simp only [ofNode?, ← kind, ← declares, ← line, ← traits, ← methods,
    ← namesInClause_spread spread]
  split <;> rfl

omit spread

theorem Tree.IsSilent.declarations (silent : IsSilent u) (source : SourceFile) :
    u.declarations source = [] := by
  cases silent with
  | leaf kind =>
    rw [Tree.declarations, ofNode?, kind]
    rfl

/-- Trees that tell the same declare the same. -/
theorem Tree.TellsSame.declarations (tells : TellsSame u u') (source source' : SourceFile) :
    (u.declarations source).map unplaced = (u'.declarations source').map unplaced := by
  induction u using Tree.induction generalizing u' with
  | node n children ih =>
    cases tells with
    | @node _ n' free _ children' same _ spread =>
      have below : (children.flatMap fun child => (child.declarations source).map unplaced) =
          children'.flatMap fun child => (child.declarations source').map unplaced :=
        (spread.imp fun child member _ tells => ih child member tells).flatMap_eq
          (fun _ _ same => same) fun _ silent => by rw [silent.declarations, List.map_nil]
      rw [Tree.declarations, Tree.declarations, declarationsAll_eq_flatMap,
        declarationsAll_eq_flatMap, List.map_append, List.map_append, List.map_flatMap, List.map_flatMap, below,
        ← Option.toList_map, ← Option.toList_map, ofNode?_spread spread same source source']

end Declarations

/-- Comments are transparent. A source with further comments has the same record, under all rules, and
declares the same, if no comment is put in front of a class that is created or whose constant is
read. -/
theorem SourceFile.comments_transparent (source source' : SourceFile)
    (commented : source.tree.Commented Node.LeavesFirst source'.tree) :
    (∀ rules path countsImports, FileRecord.ofTree rules path countsImports source'.tree =
      FileRecord.ofTree rules path countsImports source.tree) ∧
    source'.declarations.map Declaration.unplaced = source.declarations.map Declaration.unplaced := by
  have tells : source.tree.resolve.TellsSame source'.tree.resolve :=
    (commented.tellsSame {} { entered := true }).1
  refine ⟨fun rules path countsImports => ?_, (tells.declarations source source').symm⟩
  rw [FileRecord.ofTree, FileRecord.ofTree, tells.events]

namespace Tree

def sampleRemark : SyntaxTree :=
  .node { kind := .comment, text := "/* c */" } []

def sampleWord (text : String) (field : Option Field) : SyntaxTree :=
  .node { kind := .name .simple, text, field } []

theorem sampleRemark_isRemark : IsRemark sampleRemark :=
  .leaf rfl rfl rfl

theorem sampleWord_commented (before : Node → List SyntaxTree → Prop) (text : String)
    (field : Option Field) : Commented before (sampleWord text field) (sampleWord text field) :=
  .closed .nil

/-- The body of a class, with the remarks wherever they are passed over: among them behind the name
of a created class, and in front of one without a name. -/
def sampleRemarkedBody (remarks : List SyntaxTree) : SyntaxTree :=
  .node { kind := .other "declaration_list", field := some .body }
    (remarks ++
      [.node { kind := .clause .traits } (remarks ++ [sampleWord "T" none]),
       .node { kind := .creation } (sampleWord "C" none :: remarks),
       .node { kind := .creation } (remarks ++ [.node { kind := .anonymousClass } remarks])])

def sampleRemarkedClass (remarks : List SyntaxTree) : SyntaxTree :=
  .node { kind := .declaration .plain }
    (remarks ++
      [sampleWord "A" (some .name),
       .node { kind := .clause .parents } (remarks ++ [sampleWord "B" none]),
       sampleRemarkedBody remarks])

theorem sampleRemarkedBody_commented :
    (sampleRemarkedBody []).Commented Node.LeavesFirst (sampleRemarkedBody [sampleRemark]) := by
  have word := sampleWord_commented Node.LeavesFirst
  have remark := sampleRemark_isRemark
  refine .opened nofun (.insert remark (.keep ?traits (.keep ?named (.keep ?nameless .nil))))
  case traits => exact .opened nofun (.insert remark (.keep (word "T" none) .nil))
  case named => exact .closed (.keep (word "C" none) (.insert remark .nil))
  case nameless =>
    refine .opened ?_ (.insert remark (.keep (.opened nofun (.insert remark .nil)) .nil))
    rintro - first ⟨⟩
    exact ⟨rfl, rfl⟩

theorem sampleRemarkedClass_commented :
    (sampleRemarkedClass []).Commented Node.LeavesFirst (sampleRemarkedClass [sampleRemark]) := by
  have word := sampleWord_commented Node.LeavesFirst
  have remark := sampleRemark_isRemark
  refine .opened nofun (.insert remark (.keep (word "A" (some .name)) (.keep ?parents
    (.keep sampleRemarkedBody_commented .nil))))
  exact .opened nofun (.insert remark (.keep (word "B" none) .nil))

/-- A class that creates another one, with the remarks in front of its name. -/
def sampleCreation (remarks : List SyntaxTree) : SyntaxTree :=
  .node { kind := .other "program" }
    [.node { kind := .declaration .plain }
      [sampleWord "A" (some .name), .node { kind := .creation } (remarks ++ [sampleWord "C" none])]]

end Tree

namespace SourceFile

theorem comments_transparent_remarkedClass :
    let source : SourceFile := ⟨⟨"A.php"⟩, ⟨#[]⟩, Tree.sampleRemarkedClass []⟩
    let source' : SourceFile := ⟨⟨"A.php"⟩, ⟨#[]⟩, Tree.sampleRemarkedClass [Tree.sampleRemark]⟩
    let record := FileRecord.ofTree Rule.standard ⟨"A.php"⟩ true
    source.tree.Commented Node.LeavesFirst source'.tree ∧
      (record source.tree).classes =
        [⟨"A", [⟨"B", .inherits, 1⟩, ⟨"T", .usesTrait, 1⟩, ⟨"C", .instantiates, 1⟩]⟩] ∧
      record source'.tree = record source.tree ∧
      source.declarations.map (fun d => (d.parents, d.traits)) = [(["B"], ["T"])] ∧
      source'.declarations.map Declaration.unplaced = source.declarations.map Declaration.unplaced :=
  have transparent := comments_transparent ⟨⟨"A.php"⟩, ⟨#[]⟩, Tree.sampleRemarkedClass []⟩
    ⟨⟨"A.php"⟩, ⟨#[]⟩, Tree.sampleRemarkedClass [Tree.sampleRemark]⟩
    Tree.sampleRemarkedClass_commented
  ⟨Tree.sampleRemarkedClass_commented, by decide +kernel, transparent.1 _ _ _, by decide +kernel,
    transparent.2⟩

/-- A comment in front of its name hides a created class. -/
theorem comment_hides_creation :
    (Tree.sampleCreation []).Commented (fun _ _ => True)
        (Tree.sampleCreation [Tree.sampleRemark]) ∧
      FileRecord.ofTree Rule.standard ⟨"A.php"⟩ false (Tree.sampleCreation [Tree.sampleRemark]) ≠
        FileRecord.ofTree Rule.standard ⟨"A.php"⟩ false (Tree.sampleCreation []) := by
  have word := Tree.sampleWord_commented fun _ _ => True
  refine ⟨.closed (.keep (.closed (.keep (word "A" (some .name)) (.keep ?_ .nil))) .nil),
    by decide +kernel⟩
  exact .opened trivial (.insert Tree.sampleRemark_isRemark (.keep (word "C" none) .nil))

end SourceFile

end ClassGraph
