import ClassGraph.Proofs.Annotation

namespace ClassGraph

/-- How the pass comes to a tree. -/
structure Visit where
  tree : SyntaxTree
  scope : Scope
  mark : Mark

namespace Visit

/-- The visit of the child with a number. -/
def child? (v : Visit) (i : Nat) : Option Visit :=
  v.tree.children[i]?.map fun child =>
    { tree := child
      scope := v.tree.scopeBefore v.scope v.mark i
      mark := (v.tree.marksBelow v.scope v.mark)[i]?.getD .skipped }

/-- The visit of the tree at a place. -/
def at? : Visit → Place → Option Visit
  | v, [] => some v
  | v, i :: p => (v.child? i).bind (·.at? p)

/-- What the pass makes of a visited tree. -/
def resolved (v : Visit) : ResolvedTree :=
  v.tree.resolveMarked v.scope v.mark

@[simp] theorem at?_nil (v : Visit) : v.at? [] = some v :=
  rfl

theorem at?_singleton (v : Visit) (i : Nat) : v.at? [i] = v.child? i := by
  rw [at?]
  cases v.child? i <;> rfl

theorem at?_append (v : Visit) (p q : Place) : v.at? (p ++ q) = (v.at? p).bind (·.at? q) := by
  induction p generalizing v with
  | nil => rfl
  | cons i p ih =>
    rw [List.cons_append, at?, at?, Option.bind_assoc]
    exact congrArg _ (funext fun child => ih child)

theorem tree_at? (v : Visit) (p : Place) : v.tree.at? p = (v.at? p).map tree := by
  induction p generalizing v with
  | nil => exact Tree.at?_nil v.tree
  | cons i p ih =>
    rw [Tree.at?, at?, child?]
    cases v.tree.children[i]? with
    | none => rfl
    | some child =>
      rw [Option.map_some, Option.bind_some, Option.bind_some]
      exact ih ⟨child, _, _⟩

theorem children_resolved (v : Visit) (i : Nat) :
    v.resolved.children[i]? = (v.child? i).map resolved := by
  have nodes := congrArg (·[i]?) (Tree.nodes_resolveMarked v.scope v.mark v.tree)
  simp only [List.getElem?_map] at nodes
  cases made : v.resolved.children[i]? with
  | none =>
    rw [show (v.tree.resolveMarked v.scope v.mark).children[i]? = none from made] at nodes
    rw [child?, Option.map_eq_none_iff.mp nodes.symm]
    rfl
  | some u =>
    obtain ⟨source, at_i, rfl⟩ := Tree.child_resolveMarked made
    rw [child?, at_i]
    rfl

theorem at?_resolved (v : Visit) (p : Place) : v.resolved.at? p = (v.at? p).map resolved := by
  induction p generalizing v with
  | nil => exact Tree.at?_nil v.resolved
  | cons i p ih =>
    rw [Tree.at?, at?, children_resolved]
    cases v.child? i with
    | none => rfl
    | some child => exact ih child

theorem toNode_resolved (v : Visit) : v.resolved.value.toNode = v.tree.value :=
  Tree.toNode_resolveMarked v.scope v.mark v.tree

theorem declares_resolved (v : Visit) : v.resolved.value.declares =
    if v.mark.entered then v.scope.declared v.tree.value v.tree.children else none := by
  rw [resolved, Tree.value_resolveMarked]
  split <;> rfl

theorem names_resolved (v : Visit) : v.resolved.value.names =
    v.mark.names ++ if v.mark.entered then v.scope.ownNames v.tree.value else [] :=
  Tree.names_resolveMarked v.scope v.mark v.tree

end Visit

/-- The visit of the tree at a place, in the pass over a file. -/
def Tree.visit? (t : SyntaxTree) (p : Place) : Option Visit :=
  Visit.at? ⟨t, {}, { entered := true }⟩ p

namespace Tree

variable {t : SyntaxTree} {p : Place} {v : Visit}

theorem visit?_append (t : SyntaxTree) (p q : Place) :
    t.visit? (p ++ q) = (t.visit? p).bind (·.at? q) :=
  Visit.at?_append _ p q

theorem visit?_concat (t : SyntaxTree) (p : Place) (i : Nat) :
    t.visit? (p ++ [i]) = (t.visit? p).bind (·.child? i) := by
  rw [visit?_append]
  exact congrArg _ (funext fun v => v.at?_singleton i)

theorem resolve_at? (t : SyntaxTree) (p : Place) :
    t.resolve.at? p = (t.visit? p).map Visit.resolved :=
  Visit.at?_resolved ⟨t, {}, { entered := true }⟩ p

theorem at?_of_visit (visited : t.visit? p = some v) : t.at? p = some v.tree := by
  rw [show t.at? p = (t.visit? p).map Visit.tree from
    Visit.tree_at? ⟨t, {}, { entered := true }⟩ p, visited]
  rfl

theorem resolve_at?_of_visit (visited : t.visit? p = some v) :
    t.resolve.at? p = some v.resolved := by
  rw [resolve_at?, visited]
  rfl

theorem declaredAt_of_visit (visited : t.visit? p = some v) : t.resolve.declaredAt p =
    if v.mark.entered then v.scope.declared v.tree.value v.tree.children else none := by
  rw [declaredAt, resolve_at?_of_visit visited, Option.bind_some, Visit.declares_resolved]

/-- Only names are given names. -/
theorem isName_of_given (visited : t.visit? p = some v) (given : v.mark.names ≠ []) :
    v.tree.value.isName = true := by
  rcases List.eq_nil_or_concat' p with rfl | ⟨q, i, rfl⟩
  · cases visited
    exact absurd rfl given
  · rw [visit?_concat] at visited
    obtain ⟨parent, -, isChild⟩ := Option.bind_eq_some_iff.mp visited
    obtain ⟨child, at_i, rfl⟩ := Option.map_eq_some_iff.mp isChild
    obtain ⟨own, marked, ownNames⟩ := given_of_names given
    obtain ⟨child', at_i', isName, -⟩ := Mark.read_of_names marked ownNames
    rw [at_i] at at_i'
    cases at_i'
    exact isName

end Tree

namespace Mark

theorem markFirst_of_findIdx? {α : Type} {p : α → Bool} {l : List α} {i : Nat}
    (found : l.findIdx? p = some i) : (markFirst p l)[i]? = some true := by
  induction l generalizing i with
  | nil => cases found
  | cons a as ih =>
    rw [List.findIdx?_cons] at found
    rw [markFirst]
    split at found
    · cases found
      rw [if_pos ‹_›]
      rfl
    · obtain ⟨j, later, rfl⟩ := Option.map_eq_some_iff.mp found
      rw [if_neg ‹_›]
      exact ih later

theorem names_of_chosen {s : Scope} {chosen : List Bool} {children : List SyntaxTree} {i : Nat}
    {child : SyntaxTree} (isChosen : chosen[i]? = some true) (at_i : children[i]? = some child)
    (isName : child.value.isName = true) :
    ((entering s chosen children)[i]?.getD .skipped).names = s.namesOfReference child.value.text := by
  have paired : (children.zip chosen)[i]? = some (child, true) :=
    List.getElem?_zip_eq_some.mpr ⟨at_i, isChosen⟩
  rw [entering, List.getElem?_map, paired]
  simp [isName]

/-- A name that its parent reads is given the class that its text refers to. -/
theorem names_of_read {s : Scope} {n : Node} {children : List SyntaxTree} {i : Nat}
    {child : SyntaxTree} (at_i : children[i]? = some child) (isName : child.value.isName = true)
    (read : (∃ form, n.kind = .clause form) ∧ child.value.isListedName = true ∨
      n.kind.classPart? (children.map (·.value)) = some i) :
    ((ofChildren s n children)[i]?.getD .skipped).names = s.namesOfReference child.value.text := by
  have part (q : Node → Bool) (found : (children.map (·.value)).findIdx? q = some i) :
      ((entering s (markFirst (q ·.value) children) children)[i]?.getD .skipped).names =
        s.namesOfReference child.value.text := by
    rw [List.findIdx?_map] at found
    exact names_of_chosen (markFirst_of_findIdx? found) at_i isName
  rcases read with ⟨⟨form, kind⟩, listed⟩ | found
  · rw [ofChildren, kind, List.getElem?_map, at_i]
    simp [listed]
  · unfold Kind.classPart? at found
    split at found
    · rename_i kind
      rw [ofChildren, kind]
      exact part _ found
    · rename_i kind
      rw [ofChildren, kind]
      exact part _ found
    · rename_i form kind
      rw [ofChildren, kind]
      exact part _ found
    · rename_i kind
      split at found
      · rename_i test
        rw [ofChildren, kind]
        dsimp only
        rw [if_pos test]
        exact part _ found
      · cases found
    · cases found

end Mark

/-- The references that a node writes down: the members of a type, or a name as a whole. -/
def Node.words (n : Node) : List String :=
  if n.kind.isType then typeMembers n.text else if n.isName then [n.text] else []

theorem Node.isType_of_isName {n : Node} (isName : n.isName = true) : n.kind.isType = false := by
  cases kind : n.kind with
  | typeExpression form =>
    rw [Node.isName, kind] at isName
    cases isName
  | _ => rfl

/-- An edge with the word of the source that it stems from. -/
structure Origin where
  word : String
  edge : Edge
deriving DecidableEq, Repr

namespace Visit

/-- The scope in which the words of a node are read: a type is read where it stands, a name where the
node that reads it stands. There is none where the pass does not come. -/
def wordScope? (reader read : Visit) : Option Scope :=
  let place := if read.tree.value.kind.isType then read else reader
  if place.mark.entered then some place.scope else none

/-- The edges that stem from the words of a node, each with its word. -/
def originsOf (reader read : Visit) (kind : EdgeKind) : List Origin :=
  (reader.wordScope? read).elim [] fun s => read.tree.value.words.filterMap fun word =>
    ((s.meaning word).bind Referent.name?).map fun target =>
      ⟨word, target, kind, read.tree.value.line⟩

/-- The edges that are recorded at a node, each with its word. -/
def origins (reader : Visit) : List Origin :=
  reader.tree.value.kind.edgeKind?.elim [] fun kind =>
    reader.resolved.reads.flatMap fun r => (reader.at? r).elim [] (reader.originsOf · kind)

end Visit

namespace Tree

variable {t : SyntaxTree} {q r : Place} {reader read : Visit}

theorem read_of_mem_reads {i : Nat} (isChild : reader.child? i = some read)
    (listed : [i] ∈ reader.resolved.reads) :
    (∃ form, reader.tree.value.kind = .clause form) ∧ read.tree.value.isListedName = true ∨
      reader.tree.value.kind.classPart? (reader.tree.children.map (·.value)) = some i := by
  rw [singleton_mem_reads, Visit.toNode_resolved, Visit.children_resolved, isChild] at listed
  rw [Visit.resolved, nodes_resolveMarked] at listed
  refine listed.imp_left ?_
  rintro ⟨clause, u, same, isListed⟩
  cases same
  rw [Visit.toNode_resolved] at isListed
  exact ⟨clause, isListed⟩

/-- The names of a node that another one reads are the meanings of its words. -/
theorem names_of_words (visited : t.visit? q = some reader) (listed : r ∈ reader.resolved.reads)
    (there : reader.at? r = some read) :
    read.resolved.value.names = (reader.wordScope? read).elim [] fun s =>
      read.tree.value.words.filterMap fun word => (s.meaning word).bind Referent.name? := by
  have readVisited : t.visit? (q ++ r) = some read := by
    rw [visit?_append, visited, Option.bind_some, there]
  rw [Visit.names_resolved, Visit.wordScope?]
  by_cases isType : read.tree.value.kind.isType = true
  · have ungiven : read.mark.names = [] := by
      by_contra given
      rw [Node.isType_of_isName (isName_of_given readVisited given)] at isType
      cases isType
    have own : read.scope.ownNames read.tree.value =
        read.tree.value.words.filterMap fun word =>
          (read.scope.meaning word).bind Referent.name? := by
      rw [Node.words, if_pos isType, ← List.filterMap_filterMap]
      cases kind : read.tree.value.kind with
      | typeExpression form =>
        rw [Scope.ownNames, kind]
        rfl
      | _ =>
        rw [kind] at isType
        cases isType
    rw [ungiven, List.nil_append, own, if_pos isType]
    cases read.mark.entered <;> rfl
  · have unowned : read.scope.ownNames read.tree.value = [] := by
      by_contra own
      exact isType (isType_of_ownNames own)
    obtain ⟨i, rfl⟩ : ∃ i, r = [i] := by
      rcases read_shape listed with rfl | single
      · cases there
        rw [nil_mem_reads, Visit.toNode_resolved] at listed
        exact absurd listed isType
      · exact single
    rw [Visit.at?_singleton] at there
    have readAs := read_of_mem_reads there listed
    obtain ⟨child, at_i, rfl⟩ := Option.map_eq_some_iff.mp there
    rw [unowned, ite_self, List.append_nil, if_neg isType, Node.words, if_neg isType]
    dsimp only at readAs ⊢
    by_cases isName : child.value.isName = true
    · rw [if_pos isName, marksBelow]
      cases reader.mark.entered with
      | false => rfl
      | true =>
        rw [if_pos rfl, if_pos rfl, Mark.names_of_read at_i isName readAs, Option.elim_some]
        cases named : (reader.scope.meaning child.value.text).bind Referent.name? <;>
          simp [Scope.namesOfReference, named]
    · have ungiven : ((reader.tree.marksBelow reader.scope reader.mark)[i]?.getD .skipped).names =
          [] := by
        by_contra given
        exact isName (isName_of_given readVisited given)
      rw [if_neg isName, ungiven]
      cases reader.mark.entered <;> rfl

/-- The edges that the standard rules record at a node are those that stem from the words it reads. -/
theorem edgesAt_of_visit (visited : t.visit? q = some reader) :
    Rule.edgesAt Rule.standard reader.resolved = reader.origins.map (·.edge) := by
  rw [edgesAt_standard, Visit.origins, Visit.toNode_resolved]
  cases kind : reader.tree.value.kind.edgeKind? with
  | none =>
    have nothing (u : Option ResolvedTree) : u.elim [] (edgesAs none) = [] := by
      cases u <;> rfl
    simp only [nothing, Option.elim_none, List.map_nil]
    exact List.flatMap_eq_nil_iff.mpr fun _ _ => rfl
  | some kind =>
    rw [Option.elim_some, List.map_flatMap]
    refine List.flatMap_congr fun r listed => ?_
    rw [Visit.at?_resolved]
    cases there : reader.at? r with
    | none => rfl
    | some read =>
      have names := names_of_words visited listed there
      rw [Option.map_some, Option.elim_some, Option.elim_some, edgesAs, Option.elim_some, names,
        Visit.toNode_resolved, Visit.originsOf]
      cases reader.wordScope? read with
      | none => rfl
      | some s =>
        rw [Option.elim_some, Option.elim_some, List.map_filterMap, List.map_filterMap]
        simp only [Option.map_map, Function.comp_def]

/-- The edges of the class that the node at a place declares, each with its word, in order. -/
def origins (t : SyntaxTree) (p : Place) : List Origin :=
  (t.resolve.owned (some p)).flatMap fun q => (t.visit? q).elim [] Visit.origins

theorem gather_eq_origins (t : SyntaxTree) (p : Place) :
    t.resolve.gather (Rule.edgesAt Rule.standard) (some p) = (t.origins p).map (·.edge) := by
  rw [gather, origins, List.map_flatMap]
  refine List.flatMap_congr fun q _ => ?_
  rw [resolve_at?]
  cases visited : t.visit? q with
  | none => rfl
  | some reader => exact edgesAt_of_visit visited

/-- A node reads the words of a node in a scope. -/
structure ReadsWords (t : SyntaxTree) (q : Place) (reader read : Visit) (s : Scope) : Prop where
  visited : t.visit? q = some reader
  listed : ∃ r ∈ reader.resolved.reads, reader.at? r = some read
  scope : reader.wordScope? read = some s

theorem mem_originsOf {kind : EdgeKind} {o : Origin} : o ∈ reader.originsOf read kind ↔
    ∃ s, reader.wordScope? read = some s ∧ o.word ∈ read.tree.value.words ∧
      (s.meaning o.word).bind Referent.name? = some o.edge.target ∧
      o.edge = ⟨o.edge.target, kind, read.tree.value.line⟩ := by
  rw [Visit.originsOf]
  cases reader.wordScope? read with
  | none => simp
  | some s =>
    simp only [Option.elim_some, List.mem_filterMap, Option.map_eq_some_iff, Option.some.injEq,
      exists_eq_left']
    constructor
    · rintro ⟨word, listed, target, named, rfl⟩
      exact ⟨listed, named, rfl⟩
    · rintro ⟨listed, named, same⟩
      refine ⟨o.word, listed, o.edge.target, named, ?_⟩
      rw [← same]

/-- An origin is a word that a node of the class reads, with the class that the word means. -/
theorem mem_origins {p : Place} {o : Origin} : o ∈ t.origins p ↔
    ∃ q reader read s kind, t.resolve.owner? q = some p ∧ t.ReadsWords q reader read s ∧
      reader.tree.value.kind.edgeKind? = some kind ∧ o.word ∈ read.tree.value.words ∧
      (s.meaning o.word).bind Referent.name? = some o.edge.target ∧
      o.edge = ⟨o.edge.target, kind, read.tree.value.line⟩ := by
  rw [origins, List.mem_flatMap]
  constructor
  · rintro ⟨q, owned, member⟩
    cases visited : t.visit? q with
    | none =>
      rw [visited] at member
      cases member
    | some reader =>
      rw [visited, Option.elim_some, Visit.origins] at member
      cases known : reader.tree.value.kind.edgeKind? with
      | none =>
        rw [known] at member
        cases member
      | some kind =>
        rw [known, Option.elim_some] at member
        obtain ⟨r, listed, member⟩ := List.mem_flatMap.mp member
        cases there : reader.at? r with
        | none =>
          rw [there] at member
          cases member
        | some read =>
          rw [there] at member
          obtain ⟨s, scope, word, named, same⟩ := mem_originsOf.mp member
          exact ⟨q, reader, read, s, kind, of_decide_eq_true (List.mem_filter.mp owned).2,
            ⟨visited, ⟨r, listed, there⟩, scope⟩, known, word, named, same⟩
  · rintro ⟨q, reader, read, s, kind, owner, ⟨visited, ⟨r, listed, there⟩, scope⟩, known, word, named,
      same⟩
    refine ⟨q, List.mem_filter.mpr ⟨?_, decide_eq_true owner⟩, ?_⟩
    · rw [mem_places, resolve_at?_of_visit visited]
      rfl
    · rw [visited, Option.elim_some, Visit.origins, known, Option.elim_some]
      refine List.mem_flatMap.mpr ⟨r, listed, ?_⟩
      rw [there]
      exact mem_originsOf.mpr ⟨s, scope, word, named, same⟩

end Tree

end ClassGraph
