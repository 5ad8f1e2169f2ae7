import ClassGraph.Proofs.Attribution

namespace ClassGraph

/-- The kind of the edges that are recorded for a clause. -/
def ClauseForm.edgeKind : ClauseForm → EdgeKind
  | .parents => .inherits
  | .interfaces => .implements
  | .traits => .usesTrait

namespace Kind

def isType : Kind → Bool
  | .typeExpression _ => true
  | _ => false

/-- The kind of the edges that are recorded for what a node reads. -/
def edgeKind? : Kind → Option EdgeKind
  | .clause form => some form.edgeKind
  | .typeExpression _ => some .typeHint
  | .creation => some .instantiates
  | .memberAccess .call => some .staticCall
  | .memberAccess .property => some .staticProperty
  | .constantAccess => some .classConstant
  | .binary => some .classTest
  | _ => none

/-- The number of the part that an expression reads as a class. -/
def classPart? (kind : Kind) (parts : List Node) : Option Nat :=
  match kind with
  | .creation | .constantAccess => parts.findIdx? (·.named)
  | .memberAccess _ => parts.findIdx? (·.fills .scope)
  | .binary => if isClassTest parts then parts.findIdx? (·.fills .right) else none
  | _ => none

end Kind

theorem findIdx?_of_markFirst {α : Type} {p : α → Bool} {l : List α} {i : Nat}
    (marked : (markFirst p l)[i]? = some true) : l.findIdx? p = some i := by
  induction l generalizing i with
  | nil => cases marked
  | cons a as ih =>
    rw [markFirst] at marked
    rw [List.findIdx?_cons]
    split at marked
    · cases i with
      | zero => rw [if_pos ‹_›]
      | succ i =>
        rw [List.getElem?_cons_succ, List.getElem?_map] at marked
        obtain ⟨_, _, impossible⟩ := Option.map_eq_some_iff.mp marked
        cases impossible
    · cases i with
      | zero => cases marked
      | succ i => rw [if_neg ‹_›, ih marked, Option.map_some]

namespace Mark

theorem chosen_of_names {s : Scope} {chosen : List Bool} {children : List SyntaxTree} {i : Nat}
    {mark : Mark} (here : (entering s chosen children)[i]? = some mark) (named : mark.names ≠ []) :
    chosen[i]? = some true ∧ ∃ child, children[i]? = some child ∧ child.value.isName ∧
      mark.names = s.namesOfReference child.value.text := by
  rw [entering, List.getElem?_map] at here
  obtain ⟨⟨child, isChosen⟩, paired, rfl⟩ := Option.map_eq_some_iff.mp here
  obtain ⟨at_i, chosen_i⟩ := List.getElem?_zip_eq_some.mp paired
  dsimp only at named ⊢
  split at named
  · rename_i both
    rw [if_pos both]
    rw [Bool.and_eq_true] at both
    exact ⟨both.1 ▸ chosen_i, child, at_i, both.2, rfl⟩
  · exact absurd rfl named

/-- A child is given names if a clause lists it or an expression reads it as a class; they are those
that its text refers to. -/
theorem read_of_names {s : Scope} {n : Node} {children : List SyntaxTree} {i : Nat} {mark : Mark}
    (here : (ofChildren s n children)[i]? = some mark) (named : mark.names ≠ []) :
    ∃ child, children[i]? = some child ∧ child.value.isName ∧
      mark.names = s.namesOfReference child.value.text ∧
      ((∃ form, n.kind = .clause form) ∧ child.value.isListedName ∨
        n.kind.classPart? (children.map (·.value)) = some i) := by
  have part (q : Node → Bool)
      (entered : (entering s (markFirst (q ·.value) children) children)[i]? = some mark) :
      (children.map (·.value)).findIdx? q = some i ∧
        ∃ child, children[i]? = some child ∧ child.value.isName ∧
          mark.names = s.namesOfReference child.value.text := by
    obtain ⟨chosen, found⟩ := chosen_of_names entered named
    rw [List.findIdx?_map]
    exact ⟨findIdx?_of_markFirst chosen, found⟩
  have unmarked {α : Type} {l : List α} {f : α → Mark} (unnamed : ∀ a, (f a).names = [])
      (at_i : (l.map f)[i]? = some mark) : False := by
    rw [List.getElem?_map] at at_i
    obtain ⟨a, -, rfl⟩ := Option.map_eq_some_iff.mp at_i
    exact named (unnamed a)
  cases kind : n.kind with
  | clause form =>
    rw [ofChildren, kind, List.getElem?_map] at here
    obtain ⟨child, at_i, rfl⟩ := Option.map_eq_some_iff.mp here
    dsimp only at named ⊢
    split at named
    · rename_i listed
      rw [if_pos listed]
      exact ⟨child, at_i, (Bool.and_eq_true _ _ ▸ listed).2, rfl, .inl ⟨⟨form, rfl⟩, listed⟩⟩
    · exact absurd rfl named
  | creation | constantAccess =>
    rw [ofChildren, kind] at here
    obtain ⟨found, child, at_i, isName, names⟩ := part (·.named) here
    exact ⟨child, at_i, isName, names, .inr found⟩
  | memberAccess form =>
    rw [ofChildren, kind] at here
    obtain ⟨found, child, at_i, isName, names⟩ := part (·.fills .scope) here
    exact ⟨child, at_i, isName, names, .inr found⟩
  | binary =>
    rw [ofChildren, kind] at here
    dsimp only at here
    split at here
    · rename_i test
      obtain ⟨found, child, at_i, isName, names⟩ := part (·.fills .right) here
      refine ⟨child, at_i, isName, names, .inr ?_⟩
      rw [Kind.classPart?, if_pos test]
      exact found
    · exact (unmarked (fun _ => rfl) here).elim
  | _ =>
    rw [ofChildren, kind] at here
    exact (unmarked (fun _ => rfl) here).elim

/-- The pass does not enter the children of types, imports and clauses. -/
theorem left_of_kind {s : Scope} {n : Node} {children : List SyntaxTree} {i : Nat} {mark : Mark}
    (here : (ofChildren s n children)[i]? = some mark)
    (kind : n.kind.isType = true ∨ n.kind = .importDeclaration ∨ ∃ form, n.kind = .clause form) :
    mark.entered = false := by
  have unentered {f : SyntaxTree → Mark} (all : ∀ child, (f child).entered = false)
      (at_i : (children.map f)[i]? = some mark) : mark.entered = false := by
    rw [List.getElem?_map] at at_i
    obtain ⟨child, -, rfl⟩ := Option.map_eq_some_iff.mp at_i
    exact all child
  unfold ofChildren at here
  rcases kind with isType | isImport | ⟨form, isClause⟩
  · cases found : n.kind with
    | typeExpression form =>
      rw [found] at here
      exact unentered (fun _ => rfl) here
    | _ =>
      rw [found] at isType
      cases isType
  · rw [isImport] at here
    exact unentered (fun _ => rfl) here
  · rw [isClause] at here
    exact unentered (fun _ => rfl) here

end Mark

namespace Tree

/-- No expression of a tree reads a type as a class. -/
def KeepsTypesApart (t : SyntaxTree) : Prop :=
  ∀ p ∈ t.places, ∀ u ∈ t.at? p, ∀ i ∈ u.value.kind.classPart? (u.children.map value),
    ∀ part ∈ u.children[i]?, part.value.kind.isType = false

instance (t : SyntaxTree) : Decidable t.KeepsTypesApart :=
  inferInstanceAs (Decidable (∀ p ∈ t.places, _))

/-- The places of the nodes with names. -/
def annotated (t : ResolvedTree) : List Place :=
  t.places.filter fun x => (t.at? x).any fun u => !u.value.names.isEmpty

/-- The place of the node that reads the names at a place: the place itself if a type stands there,
else the place above it. -/
def readAt (t : ResolvedTree) (x : Place) : Place :=
  if (t.at? x).any (·.value.kind.isType) then x else x.dropLast

/-- The kind of the edges that stand for the names at a place. -/
def edgeKindAt? (t : ResolvedTree) (x : Place) : Option EdgeKind :=
  (t.at? (t.readAt x)).bind (·.value.kind.edgeKind?)

/-- The edges, if any, that stand for the names of a node. -/
def edgesAs (kind : Option EdgeKind) (u : ResolvedTree) : List Edge :=
  kind.elim [] fun kind => u.value.names.map fun target => ⟨target, kind, u.value.line⟩

/-- The edges that stand for the names of the node at a place. -/
def edgesOf (t : ResolvedTree) (x : Place) : List Edge :=
  (t.at? x).elim [] (edgesAs (t.edgeKindAt? x))

/-- Where a node reads names: at itself if it is a type, else at some of its children. -/
def reads (u : ResolvedTree) : List Place :=
  match u.value.kind with
  | .typeExpression _ => [[]]
  | .clause _ => (u.children.zipIdx.filter (·.1.value.isListedName)).map fun entry => [entry.2]
  | kind => (kind.classPart? (u.children.map (·.value.toNode))).toList.map fun i => [i]

theorem filterMap_edgesTo (kind : EdgeKind) (u : ResolvedTree) :
    (edgesTo kind u).filterMap Event.edge? = edgesAs (some kind) u := by
  rw [edgesTo, List.filterMap_map]
  exact congrFun List.filterMap_eq_map u.value.names

theorem filterMap_flatMap_edgesTo (kind : EdgeKind) (us : List ResolvedTree) :
    (us.flatMap (edgesTo kind)).filterMap Event.edge? = us.flatMap (edgesAs (some kind)) := by
  simp only [List.filterMap_flatMap, filterMap_edgesTo]

/-- What the standard rules record at a node, in terms of what the node reads. -/
theorem edgesAt_standard (u : ResolvedTree) : Rule.edgesAt Rule.standard u =
    u.reads.flatMap fun q => (u.at? q).elim [] (edgesAs u.value.kind.edgeKind?) := by
  obtain ⟨n, children⟩ := u
  have listed (kind : EdgeKind) : (listedNames children).flatMap (edgesAs (some kind)) =
      ((children.zipIdx.filter (·.1.value.isListedName)).map fun entry => [entry.2]).flatMap
        fun q => ((node n children).at? q).elim [] (edgesAs (some kind)) := by
    have place : ∀ entry ∈ children.zipIdx.filter (·.1.value.isListedName),
        ((node n children).at? [entry.2]).elim [] (edgesAs (some kind)) =
          edgesAs (some kind) entry.1 := by
      intro entry member
      have here := List.mem_zipIdx_iff_getElem?.mp (List.mem_filter.mp member).1
      rw [at?_cons, here, Option.bind_some, at?_nil, Option.elim_some]
    have same : listedNames children =
        (children.zipIdx.filter (·.1.value.isListedName)).map Prod.fst := by
      rw [listedNames, ← List.zipIdx_map_fst 0 children, List.filter_map, List.zipIdx_map_fst]
      rfl
    rw [List.flatMap_map, List.flatMap_congr place, same, List.flatMap_map]
  have part (kind : EdgeKind) (found : Option Nat) :
      (found.bind (children[·]?)).toList.flatMap (edgesAs (some kind)) =
        (found.toList.map fun i => [i]).flatMap
          fun q => ((node n children).at? q).elim [] (edgesAs (some kind)) := by
    cases found with
    | none => rfl
    | some i => cases here : children[i]? <;> simp [here]
  simp only [Rule.edgesAt, Rule.standard, List.flatMap_cons, List.flatMap_nil, List.append_nil,
    List.filterMap_append, reads, value_node, children_node]
  cases kind : n.kind with
  | clause form =>
    cases form <;> simp [Rule.events, kind, Kind.edgeKind?, ClauseForm.edgeKind,
      filterMap_flatMap_edgesTo, listed]
  | typeExpression form => simp [Rule.events, kind, Kind.edgeKind?, filterMap_edgesTo]
  | creation | constantAccess =>
    simp [Rule.events, kind, Kind.edgeKind?, filterMap_flatMap_edgesTo, Kind.classPart?,
      List.find?_eq_bind_findIdx?_getElem?, Function.comp_def, part]
  | memberAccess form =>
    cases form <;>
      simp [Rule.events, kind, Kind.edgeKind?, filterMap_flatMap_edgesTo, Kind.classPart?,
        List.find?_eq_bind_findIdx?_getElem?, Function.comp_def, part]
  | binary =>
    by_cases test : isClassTest (children.map (·.value.toNode)) <;>
      simp [Rule.events, kind, Kind.edgeKind?, filterMap_flatMap_edgesTo, Kind.classPart?, test,
        List.find?_eq_bind_findIdx?_getElem?, Function.comp_def, part]
  | importDeclaration => simp [Rule.events, kind, Kind.classPart?, Event.edge?]
  | _ => simp [Rule.events, kind, Kind.classPart?]

theorem mem_annotated {t : ResolvedTree} {x : Place} :
    x ∈ t.annotated ↔ ∃ u, t.at? x = some u ∧ u.value.names ≠ [] := by
  rw [annotated, List.mem_filter, mem_places]
  cases here : t.at? x <;> simp

theorem nil_mem_reads {u : ResolvedTree} : [] ∈ u.reads ↔ u.value.kind.isType = true := by
  cases kind : u.value.kind <;> simp [reads, kind, Kind.isType]

theorem singleton_mem_reads {u : ResolvedTree} {i : Nat} : [i] ∈ u.reads ↔
    (∃ form, u.value.kind = .clause form) ∧
        (∃ v, u.children[i]? = some v ∧ v.value.isListedName = true) ∨
      u.value.kind.classPart? (u.children.map (·.value.toNode)) = some i := by
  cases kind : u.value.kind with
  | clause form => simp [reads, kind, Kind.classPart?, List.mem_zipIdx_iff_getElem?]
  | typeExpression form => simp [reads, kind, Kind.classPart?]
  | _ => simp [reads, kind]

theorem read_shape {u : ResolvedTree} {r : Place} (read : r ∈ u.reads) : r = [] ∨ ∃ i, r = [i] := by
  unfold reads at read
  split at read
  · exact .inl (List.mem_singleton.mp read)
  · obtain ⟨entry, -, rfl⟩ := List.mem_map.mp read
    exact .inr ⟨_, rfl⟩
  · obtain ⟨i, -, rfl⟩ := List.mem_map.mp read
    exact .inr ⟨i, rfl⟩

theorem edgeKind?_of_read {u : ResolvedTree} {r : Place} (read : r ∈ u.reads) :
    ∃ kind, u.value.kind.edgeKind? = some kind := by
  cases kind : u.value.kind with
  | memberAccess form => cases form <;> exact ⟨_, rfl⟩
  | clause | typeExpression | creation | constantAccess | binary => exact ⟨_, rfl⟩
  | _ => simp [reads, kind, Kind.classPart?] at read

theorem nodup_reads (u : ResolvedTree) : u.reads.Nodup := by
  unfold reads
  split
  · exact List.nodup_singleton _
  · have numbers : (u.children.zipIdx.map Prod.snd).Nodup := by
      rw [List.zipIdx_map_snd]
      exact List.nodup_range'
    have distinct := (List.pairwise_map.mp numbers).filter (·.1.value.isListedName)
    refine List.pairwise_map.mpr (distinct.imp ?_)
    intro first second different same
    exact different (List.singleton_inj.mp same)
  · have single (found : Option Nat) : (found.toList.map fun i => [i]).Nodup := by
      cases found <;> simp
    exact single _

theorem isType_of_ownNames {s : Scope} {n : Node} (own : s.ownNames n ≠ []) :
    n.kind.isType = true := by
  unfold Scope.ownNames at own
  split at own
  · rename_i kind
    rw [kind]
    rfl
  · exact absurd rfl own

theorem given_of_names {s : Scope} {mark : Mark} {source : SyntaxTree} {i : Nat}
    (given : ((source.marksBelow s mark)[i]?.getD .skipped).names ≠ []) :
    ∃ own, (Mark.ofChildren s source.value source.children)[i]? = some own ∧ own.names ≠ [] := by
  unfold marksBelow at given
  split at given
  · cases marked : (Mark.ofChildren s source.value source.children)[i]? with
    | none =>
      rw [marked] at given
      exact absurd rfl given
    | some own =>
      rw [marked] at given
      exact ⟨own, rfl, given⟩
  · exact absurd rfl given

theorem read_of_child_names {s : Scope} {mark : Mark} {source : SyntaxTree} {i : Nat}
    {u : ResolvedTree} (inParent : (source.resolveMarked s mark).children[i]? = some u)
    (named : u.value.names ≠ []) :
    u.value.kind.isType = true ∨
      u.value.isName = true ∧ [i] ∈ (source.resolveMarked s mark).reads := by
  obtain ⟨child, at_i, rfl⟩ := child_resolveMarked inParent
  rw [toNode_resolveMarked]
  rw [names_resolveMarked] at named
  by_cases given : ((source.marksBelow s mark)[i]?.getD .skipped).names = []
  · rw [given, List.nil_append] at named
    split at named
    · exact .inl (isType_of_ownNames named)
    · exact absurd rfl named
  · obtain ⟨own, marked, ownNames⟩ := given_of_names given
    obtain ⟨child', at_i', isName, -, read⟩ := Mark.read_of_names marked ownNames
    rw [at_i] at at_i'
    cases at_i'
    refine .inr ⟨isName, singleton_mem_reads.mpr ?_⟩
    rw [nodes_resolveMarked, toNode_resolveMarked]
    rcases read with ⟨clause, listed⟩ | part
    · refine .inl ⟨clause, _, inParent, ?_⟩
      rw [toNode_resolveMarked]
      exact listed
    · exact .inr part

/-- A node with names is a type, or a name that its parent reads. -/
theorem read_of_names {t : SyntaxTree} {x : Place} {u : ResolvedTree}
    (here : t.resolve.at? x = some u) (named : u.value.names ≠ []) :
    u.value.kind.isType = true ∨ u.value.isName = true ∧
      ∃ q i parent, x = q ++ [i] ∧ t.resolve.at? q = some parent ∧ [i] ∈ parent.reads := by
  rcases List.eq_nil_or_concat' x with rfl | ⟨q, i, rfl⟩
  · rw [resolve_eq, at?_nil] at here
    cases here
    rw [names_resolveMarked] at named
    rw [toNode_resolveMarked]
    exact .inl (isType_of_ownNames named)
  · rw [at?_append] at here
    obtain ⟨parent, above, inParent⟩ := Option.bind_eq_some_iff.mp here
    obtain ⟨source, s, mark, -, rfl⟩ := at?_resolve above
    rw [at?_singleton] at inParent
    rcases read_of_child_names inParent named with isType | ⟨isName, read⟩
    · exact .inl isType
    · exact .inr ⟨isName, q, i, _, rfl, above, read⟩

theorem listed_of_names_below {s : Scope} {mark : Mark} {source : SyntaxTree} {i : Nat} {q : Place}
    {v : ResolvedTree} (kind : source.value.kind.isType = true ∨
      source.value.kind = .importDeclaration ∨ ∃ form, source.value.kind = .clause form)
    (below : (source.resolveMarked s mark).at? (i :: q) = some v) (named : v.value.names ≠ []) :
    q = [] ∧ (∃ form, source.value.kind = .clause form) ∧ v.value.isListedName = true := by
  obtain ⟨child, at_i, inChild⟩ := Option.bind_eq_some_iff.mp below
  obtain ⟨part, at_part, rfl⟩ := child_resolveMarked at_i
  have left : ((source.marksBelow s mark)[i]?.getD .skipped).entered = false := by
    unfold marksBelow
    split
    · cases marked : (Mark.ofChildren s source.value source.children)[i]? with
      | none => rfl
      | some own => exact Mark.left_of_kind marked kind
    · rfl
  cases q with
  | cons j q => exact absurd (names_below_left left inChild) named
  | nil =>
    rw [at?_nil] at inChild
    cases inChild
    rw [names_resolveMarked, left, if_neg Bool.false_ne_true, List.append_nil] at named
    obtain ⟨own, marked, ownNames⟩ := given_of_names named
    obtain ⟨part', at_part', -, -, read⟩ := Mark.read_of_names marked ownNames
    rw [at_part] at at_part'
    cases at_part'
    rw [toNode_resolveMarked]
    rcases read with ⟨clause, listed⟩ | read
    · exact ⟨rfl, clause, listed⟩
    · unfold Kind.classPart? at read
      rcases kind with isType | isImport | ⟨form, isClause⟩
      · cases found : source.value.kind <;> simp [found, Kind.isType] at isType read
      · simp [isImport] at read
      · simp [isClause] at read

/-- Below a type or an import no node has names, and below a clause only the children it lists. -/
theorem kind_above_names {t : SyntaxTree} {p q : Place} {u v : ResolvedTree}
    (here : t.resolve.at? p = some u) (nonempty : q ≠ []) (below : t.resolve.at? (p ++ q) = some v)
    (named : v.value.names ≠ []) :
    u.value.kind.isType = false ∧ u.value.kind ≠ .importDeclaration ∧
      ∀ form, u.value.kind = .clause form → q.length = 1 ∧ v.value.isListedName = true := by
  rw [at?_append, here, Option.bind_some] at below
  obtain ⟨source, s, mark, -, rfl⟩ := at?_resolve here
  rw [toNode_resolveMarked]
  cases q with
  | nil => exact absurd rfl nonempty
  | cons i q =>
    refine ⟨?_, ?_, ?_⟩
    · refine Bool.eq_false_iff.mpr fun isType => ?_
      obtain ⟨-, ⟨form, isClause⟩, -⟩ := listed_of_names_below (.inl isType) below named
      rw [isClause] at isType
      cases isType
    · intro isImport
      obtain ⟨-, ⟨form, isClause⟩, -⟩ := listed_of_names_below (.inr (.inl isImport)) below named
      rw [isClause] at isImport
      cases isImport
    · intro form isClause
      obtain ⟨rfl, -, listed⟩ := listed_of_names_below (.inr (.inr ⟨form, isClause⟩)) below named
      exact ⟨rfl, listed⟩

end Tree

end ClassGraph
