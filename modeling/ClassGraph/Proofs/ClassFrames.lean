import ClassGraph.Proofs.Visits

namespace ClassGraph

/-- A reference without the blanks around it. -/
def bareWord (reference : String) : String :=
  String.ofList (Text.strip Text.isBlank reference.toList)

namespace Kind

def isClassLike : Kind → Bool
  | .declaration _ | .anonymousClass => true
  | _ => false

theorem not_classLike_of_edgeKind {kind : Kind} {edgeKind : EdgeKind}
    (known : kind.edgeKind? = some edgeKind) : kind.isClassLike = false := by
  cases kind with
  | declaration | anonymousClass => cases known
  | _ => rfl

theorem not_classLike_of_isType {kind : Kind} (isType : kind.isType = true) :
    kind.isClassLike = false := by
  cases kind with
  | declaration | anonymousClass => cases isType
  | _ => rfl

/-- Nodes that change the namespace or the imports. -/
def changesScope : Kind → Bool
  | .namespaceDefinition | .importDeclaration => true
  | _ => false

end Kind

namespace Scope

variable {s : Scope} {n : Node} {children : List SyntaxTree}

/-- A node that opens a class is a declaration with a name or an anonymous class. -/
theorem opensClass_cases (s : Scope) (opens : opensClass n children = true) :
    (∃ form name, n.kind = .declaration form ∧ s.declared n children = some name ∧
      s.enclosingInside n children =
        some ⟨some name, if form = .plain then s.parentNamed children else none⟩) ∨
    n.kind = .anonymousClass ∧ s.enclosingInside n children = some ⟨none, s.parentNamed children⟩ := by
  unfold opensClass at opens
  split at opens
  · rename_i form kind
    obtain ⟨child, filling⟩ := Option.isSome_iff_exists.mp opens
    have declares : s.declared n children = some (s.fullName child.value.text) := by
      rw [declared, kind]
      dsimp only
      rw [textFilling?, filling]
      rfl
    refine .inl ⟨form, s.fullName child.value.text, kind, declares, ?_⟩
    rw [enclosingInside, kind, declares]
  · rename_i kind
    refine .inr ⟨kind, ?_⟩
    rw [enclosingInside, kind]
  · cases opens

theorem isClassLike_of_opens (opens : opensClass n children = true) : n.kind.isClassLike = true := by
  rcases opensClass_cases {} opens with ⟨form, name, kind, -⟩ | ⟨kind, -⟩ <;> rw [kind] <;> rfl

theorem closed_of_kind (kind : n.kind.isClassLike = false) : opensClass n children = false := by
  by_contra opens
  rw [isClassLike_of_opens (Bool.of_not_eq_false opens)] at kind
  cases kind

theorem declared_of_closed (closed : opensClass n children = false) : s.declared n children = none := by
  cases kind : n.kind with
  | declaration form =>
    rw [opensClass, kind] at closed
    have unfilled : childFilling? .name children = none :=
      Option.not_isSome_iff_eq_none.mp (Bool.eq_false_iff.mp closed)
    rw [declared, kind]
    dsimp only
    rw [textFilling?, unfilled]
    rfl
  | _ => rw [declared, kind]

theorem enclosingInside_of_closed (closed : opensClass n children = false) :
    s.enclosingInside n children = s.enclosing := by
  have undeclared := declared_of_closed (s := s) closed
  unfold enclosingInside
  split
  · rw [undeclared]
  · rename_i kind
    rw [opensClass, kind] at closed
    cases closed
  · rfl

theorem enclosing_inside_of_closed (closed : opensClass n children = false) :
    (s.inside n children).enclosing = none ∨ (s.inside n children).enclosing = s.enclosing := by
  unfold inside
  split
  · exact .inl rfl
  · exact .inr (enclosingInside_of_closed closed)

theorem inside_of_opens (opens : opensClass n children = true) :
    s.inside n children = { s with enclosing := s.enclosingInside n children } := by
  have classLike := isClassLike_of_opens opens
  unfold inside
  rw [if_neg]
  intro kind
  rw [kind] at classLike
  cases classLike

theorem meaning_bareWord (s : Scope) (word : String) :
    s.meaning word = s.wordMeaning (bareWord word) :=
  rfl

theorem written_of_classWord {word : String}
    (isClassWord : (isSelfWord word || isParentWord word) = true) : ¬ word.isEmpty = true := by
  intro empty
  rw [String.isEmpty_iff.mp empty] at isClassWord
  exact absurd isClassWord (by decide)

/-- The words for the class around a reference name that class. -/
theorem name?_meaning_of_self {word : String} (isSelf : isSelfWord (bareWord word) = true) :
    (s.meaning word).bind Referent.name? = s.enclosing.bind (·.name) := by
  have written := written_of_classWord (Bool.or_eq_true_iff.mpr (.inl isSelf))
  rw [meaning_bareWord, wordMeaning, if_neg written, if_pos isSelf, Option.bind_map]
  exact Option.bind_fun_some _

theorem isSelfWord_of_parent {word : String} (isParent : isParentWord word = true) :
    isSelfWord word = false := by
  have lower : Text.lower word = Text.lower "parent" := beq_iff_eq.mp isParent
  rw [isSelfWord, Text.sameIgnoringCase, Text.sameIgnoringCase, lower]
  decide

/-- The word for the parent names the parent of the class around. -/
theorem name?_meaning_of_parent {word : String} (isParent : isParentWord (bareWord word) = true) :
    (s.meaning word).bind Referent.name? = s.enclosing.bind (·.parent) := by
  have written := written_of_classWord (Bool.or_eq_true_iff.mpr (.inr isParent))
  have notSelf := Bool.eq_false_iff.mp (isSelfWord_of_parent isParent)
  rw [meaning_bareWord, wordMeaning, if_neg written, if_neg notSelf, if_pos isParent,
    Option.bind_map]
  exact Option.bind_fun_some _

theorem enclosing_of_self {word target : String} (isSelf : isSelfWord (bareWord word) = true)
    (named : (s.meaning word).bind Referent.name? = some target) :
    ∃ c, s.enclosing = some c ∧ c.name = some target := by
  rw [name?_meaning_of_self isSelf] at named
  exact Option.bind_eq_some_iff.mp named

theorem enclosing_of_parent {word target : String} (isParent : isParentWord (bareWord word) = true)
    (named : (s.meaning word).bind Referent.name? = some target) :
    ∃ c, s.enclosing = some c ∧ c.parent = some target := by
  rw [name?_meaning_of_parent isParent] at named
  exact Option.bind_eq_some_iff.mp named

/-- The words for the class around a reference and for its parent apart, a meaning does not depend on
the class around. -/
theorem meaning_outside (around : Option EnclosingClass) {word : String}
    (notSelf : isSelfWord (bareWord word) = false) (notParent : isParentWord (bareWord word) = false) :
    ({ s with enclosing := around } : Scope).meaning word = s.meaning word := by
  have qualified (head rest : String) :
      ({ s with enclosing := around } : Scope).resolveQualified head rest =
        s.resolveQualified head rest := rfl
  have plain (name : String) :
      ({ s with enclosing := around } : Scope).resolvePlain name = s.resolvePlain name := rfl
  rw [meaning_bareWord, meaning_bareWord, wordMeaning, wordMeaning]
  simp only [notSelf, notParent, Bool.false_eq_true, if_false, qualified, plain]

end Scope

namespace Tree

/-- A pass over trees that each keep the class around them or leave every class does the same. -/
theorem enclosing_resolveAllIn {ts : List SyntaxTree}
    (each : ∀ t ∈ ts, ∀ s given, (t.resolveIn s given).2.enclosing = none ∨
      (t.resolveIn s given).2.enclosing = s.enclosing) (s : Scope) (marks : List Mark) :
    (resolveAllIn s marks ts).2.enclosing = none ∨
      (resolveAllIn s marks ts).2.enclosing = s.enclosing := by
  induction ts generalizing s marks with
  | nil => exact .inr rfl
  | cons t ts ih =>
    cases marks with
    | nil =>
      rw [resolveAllIn_nil]
      exact .inr rfl
    | cons mark marks =>
      have first : (t.scopeBehind s mark).enclosing = none ∨
          (t.scopeBehind s mark).enclosing = s.enclosing := by
        unfold scopeBehind
        split
        · exact each t (List.mem_cons_self ..) s mark.names
        · exact .inr rfl
      have others := ih (fun u member => each u (List.mem_cons_of_mem t member))
        (t.scopeBehind s mark) marks
      rw [resolveAllIn_cons]
      rcases others with left | kept
      · exact .inl left
      · rw [kept]
        exact first

/-- Behind a tree the class around is the one before it, or a namespace has left it. -/
theorem enclosing_behind (t : SyntaxTree) : ∀ s given, (t.resolveIn s given).2.enclosing = none ∨
    (t.resolveIn s given).2.enclosing = s.enclosing := by
  induction t using Tree.induction with
  | node n children ih =>
    intro s given
    have last := enclosing_resolveAllIn ih (s.inside n children) (Mark.ofChildren s n children)
    rw [resolveIn]
    dsimp only
    unfold Scope.after
    split
    · split
      · exact .inr rfl
      · exact .inl rfl
    · exact .inr rfl
    · split
      · exact .inr rfl
      · rename_i closed
        rcases last with left | kept
        · exact .inl left
        · rw [kept]
          exact Scope.enclosing_inside_of_closed (Bool.eq_false_iff.mpr closed)

end Tree

namespace Visit

theorem entered_above {v child : Visit} {i : Nat} (isChild : v.child? i = some child)
    (entered : child.mark.entered = true) : v.mark.entered = true := by
  obtain ⟨tree, -, rfl⟩ := Option.map_eq_some_iff.mp isChild
  by_contra left
  rw [Tree.marksBelow, if_neg left] at entered
  cases entered

theorem enclosing_child {v child : Visit} {i : Nat} (isChild : v.child? i = some child)
    (entered : child.mark.entered = true) : child.scope.enclosing = none ∨
      child.scope.enclosing = (v.scope.inside v.tree.value v.tree.children).enclosing := by
  have above := entered_above isChild entered
  obtain ⟨tree, -, rfl⟩ := Option.map_eq_some_iff.mp isChild
  dsimp only
  rw [Tree.scopeBefore, if_pos above]
  exact Tree.enclosing_resolveAllIn (fun t _ => t.enclosing_behind) _ _

end Visit

namespace Tree

/-- The class around a place is the one that the node at `frame` opens, and no node between the two
declares a class. -/
structure Frames (t : SyntaxTree) (frame below : Place) (opener : Visit)
    (around : Option EnclosingClass) : Prop where
  visited : t.visit? frame = some opener
  entered : opener.mark.entered = true
  opens : Scope.opensClass opener.tree.value opener.tree.children = true
  around_eq : around = opener.scope.enclosingInside opener.tree.value opener.tree.children
  between : ∀ q, q <+: below → q ≠ [] → q ≠ below → t.resolve.declaredAt (frame ++ q) = none

variable {t : SyntaxTree} {p frame below : Place} {v opener : Visit}

theorem declaredAt_of_closed (visited : t.visit? p = some v)
    (closed : Scope.opensClass v.tree.value v.tree.children = false) :
    t.resolve.declaredAt p = none := by
  rw [declaredAt_of_visit visited, Scope.declared_of_closed closed, ite_self]

/-- Wherever the pass comes inside a class, some node above opens that class. -/
theorem exists_frames (visited : t.visit? p = some v) (entered : v.mark.entered = true) :
    v.scope.enclosing = none ∨
      ∃ frame below opener, p = frame ++ below ∧ t.Frames frame below opener v.scope.enclosing := by
  induction p using List.reverseRecOn generalizing v with
  | nil =>
    cases visited
    exact .inl rfl
  | append_singleton q i ih =>
    rw [visit?_concat] at visited
    obtain ⟨parent, above, isChild⟩ := Option.bind_eq_some_iff.mp visited
    have parentEntered := Visit.entered_above isChild entered
    rcases Visit.enclosing_child isChild entered with left | kept
    · exact .inl left
    · cases opens : Scope.opensClass parent.tree.value parent.tree.children with
      | true =>
        rw [Scope.inside_of_opens opens] at kept
        refine .inr ⟨q, [i], parent, rfl, above, parentEntered, opens, kept, ?_⟩
        intro q' shorter nonempty short
        rcases List.prefix_concat_iff.mp (show q' <+: [] ++ [i] from shorter) with same | empty
        · exact absurd same short
        · exact absurd (List.prefix_nil.mp empty) nonempty
      | false =>
        rcases Scope.enclosing_inside_of_closed (s := parent.scope) opens with left | same
        · exact .inl (kept.trans left)
        · rw [kept, same]
          rcases ih above parentEntered with left | ⟨frame, below, opener, rfl, frames⟩
          · exact .inl left
          · refine .inr ⟨frame, below ++ [i], opener, List.append_assoc .., frames.visited,
              frames.entered, frames.opens, frames.around_eq, ?_⟩
            intro q' shorter nonempty short
            rcases List.prefix_concat_iff.mp shorter with same | inBelow
            · exact absurd same short
            · by_cases whole : q' = below
              · rw [whole]
                exact declaredAt_of_closed above opens
              · exact frames.between q' inBelow nonempty whole

namespace Frames

variable {around : Option EnclosingClass}

/-- A place that declares nothing has the owner of the node that opens the class around it. -/
theorem owner?_eq (frames : t.Frames frame below opener around)
    (undeclared : t.resolve.declaredAt (frame ++ below) = none) :
    t.resolve.owner? (frame ++ below) = t.resolve.owner? frame := by
  refine owner?_append fun q shorter nonempty => ?_
  by_cases whole : q = below
  · rw [whole]
    exact undeclared
  · exact frames.between q shorter nonempty whole

/-- The node that opens a class with a name is the one that declares it. -/
theorem declaredAt_eq (frames : t.Frames frame below opener around) {c : EnclosingClass}
    {name : String} (inside : around = some c) (named : c.name = some name) :
    t.resolve.declaredAt frame = some name := by
  rw [declaredAt_of_visit frames.visited, if_pos frames.entered]
  have around_eq := frames.around_eq.symm.trans inside
  rcases Scope.opensClass_cases opener.scope frames.opens with
    ⟨form, declaredName, -, declares, frame_eq⟩ | ⟨-, frame_eq⟩
  · cases frame_eq.symm.trans around_eq
    rw [declares, ← named]
  · cases frame_eq.symm.trans around_eq
    cases named

/-- The parent of a class is named by a clause of the node that opens the class. -/
theorem parentNamed_eq (frames : t.Frames frame below opener around) {c : EnclosingClass}
    {target : String} (inside : around = some c) (parent : c.parent = some target) :
    opener.scope.parentNamed opener.tree.children = some target := by
  have around_eq := frames.around_eq.symm.trans inside
  rcases Scope.opensClass_cases opener.scope frames.opens with
    ⟨form, declaredName, -, -, frame_eq⟩ | ⟨-, frame_eq⟩
  · cases frame_eq.symm.trans around_eq
    dsimp only at parent
    split at parent
    · exact parent
    · cases parent
  · cases frame_eq.symm.trans around_eq
    exact parent

end Frames

theorem owner?_of_declaredAt {name : String} (declares : t.resolve.declaredAt p = some name) :
    t.resolve.owner? p = some p := by
  rcases List.eq_nil_or_concat' p with rfl | ⟨q, i, rfl⟩
  · simp [owner?, declares]
  · rw [owner?_concat, declares]
    rfl

/-- The words that a node reads are read in the scope of its own place, or of the type that it reads. -/
theorem ReadsWords.exists_visit {q : Place} {reader read : Visit} {s : Scope}
    (reads : t.ReadsWords q reader read s) :
    ∃ r v, t.visit? (q ++ r) = some v ∧ v.mark.entered = true ∧ v.scope = s ∧
      (r = [] ∨ ∃ i, r = [i]) ∧ (v = reader ∨ v.tree.value.kind.isType = true) := by
  obtain ⟨r, listed, there⟩ := reads.listed
  have scope := reads.scope
  dsimp only [Visit.wordScope?] at scope
  by_cases isType : read.tree.value.kind.isType = true
  · rw [if_pos isType] at scope
    have readVisited : t.visit? (q ++ r) = some read := by
      rw [visit?_append, reads.visited, Option.bind_some, there]
    obtain ⟨entered, same⟩ := Option.ite_none_right_eq_some.mp scope
    exact ⟨r, read, readVisited, entered, Option.some.inj same, read_shape listed, .inr isType⟩
  · rw [if_neg isType] at scope
    obtain ⟨entered, same⟩ := Option.ite_none_right_eq_some.mp scope
    exact ⟨[], reader, by rw [List.append_nil, reads.visited], entered, Option.some.inj same,
      .inl rfl, .inl rfl⟩

/-- The words that a node reads are read at some place of the same owner, in the scope there. -/
theorem ReadsWords.place {q : Place} {reader read : Visit} {s : Scope} {kind : EdgeKind}
    (reads : t.ReadsWords q reader read s)
    (known : reader.tree.value.kind.edgeKind? = some kind) :
    ∃ y v, t.visit? y = some v ∧ v.mark.entered = true ∧ v.scope = s ∧
      t.resolve.declaredAt y = none ∧ t.resolve.owner? y = t.resolve.owner? q := by
  obtain ⟨r, v, visited, entered, same, short, kinds⟩ := reads.exists_visit
  have notClassLike : v.tree.value.kind.isClassLike = false := by
    rcases kinds with rfl | isType
    · exact Kind.not_classLike_of_edgeKind known
    · exact Kind.not_classLike_of_isType isType
  have undeclared := declaredAt_of_closed visited (Scope.closed_of_kind notClassLike)
  refine ⟨q ++ r, v, visited, entered, same, undeclared, ?_⟩
  rcases short with rfl | ⟨i, rfl⟩
  · rw [List.append_nil]
  · rw [owner?_concat, undeclared, if_neg (by simp)]

/-- No namespace definition and no import declaration stands below a class of a tree. -/
def KeepsScopeInClasses (t : SyntaxTree) : Prop :=
  ∀ p ∈ t.places, ∀ u ∈ t.at? p, u.value.kind.isClassLike = true →
    ∀ n ∈ preorderAll u.children, n.kind.changesScope = false

/-- No extends clause of a tree names a class by the word for the class around or for its parent. -/
def ExtendsByName (t : SyntaxTree) : Prop :=
  ∀ p ∈ t.places, ∀ u ∈ t.at? p, u.value.kind = .clause .parents →
    ∀ child ∈ u.children, child.value.isListedName = true →
      isSelfWord (bareWord child.value.text) = false ∧
        isParentWord (bareWord child.value.text) = false

instance (t : SyntaxTree) : Decidable t.KeepsScopeInClasses :=
  inferInstanceAs (Decidable (∀ p ∈ t.places, _))

instance (t : SyntaxTree) : Decidable t.ExtendsByName :=
  inferInstanceAs (Decidable (∀ p ∈ t.places, _))

/-- A pass over trees that each keep the scope keeps it. -/
theorem scope_resolveAllIn {ts : List SyntaxTree}
    (each : ∀ t ∈ ts, ∀ s given, (t.resolveIn s given).2 = s) (s : Scope) (marks : List Mark) :
    (resolveAllIn s marks ts).2 = s := by
  induction ts generalizing marks with
  | nil => rfl
  | cons t ts ih =>
    cases marks with
    | nil => rw [resolveAllIn_nil]
    | cons mark marks =>
      have first : t.scopeBehind s mark = s := by
        unfold scopeBehind
        split
        · exact each t (List.mem_cons_self ..) s mark.names
        · rfl
      rw [resolveAllIn_cons, first]
      exact ih (fun u member => each u (List.mem_cons_of_mem t member)) marks

/-- A tree without namespace definitions and import declarations leaves the scope as it was. -/
theorem scope_behind {t : SyntaxTree} (quiet : ∀ n ∈ t.preorder, n.kind.changesScope = false) :
    ∀ s given, (t.resolveIn s given).2 = s := by
  induction t using Tree.induction with
  | node n children ih =>
    intro s given
    have below : ∀ t ∈ children, ∀ s given, (t.resolveIn s given).2 = s := by
      intro t member
      refine ih t member fun m inside => quiet m ?_
      rw [preorder, preorderAll_eq_flatMap]
      exact List.mem_cons_of_mem n (List.mem_flatMap.mpr ⟨t, member, inside⟩)
    have own : n.kind.changesScope = false := quiet n (List.mem_cons_self ..)
    have last := scope_resolveAllIn below (s.inside n children) (Mark.ofChildren s n children)
    rw [resolveIn]
    dsimp only
    rw [last]
    unfold Scope.after
    split
    · rename_i kind
      rw [kind] at own
      cases own
    · rename_i kind
      rw [kind] at own
      cases own
    · rename_i notSpace notImport
      split
      · rename_i opens
        rw [Scope.inside_of_opens opens]
      · rename_i closed
        rw [Scope.inside, if_neg notSpace,
          Scope.enclosingInside_of_closed (Bool.eq_false_iff.mpr closed)]

/-- Below a tree without namespace definitions and import declarations inside, each child is met in
the scope in which the first one is. -/
theorem scopeBefore_of_quiet {t : SyntaxTree} {s : Scope} {mark : Mark}
    (quiet : ∀ n ∈ preorderAll t.children, n.kind.changesScope = false)
    (entered : mark.entered = true) (i : Nat) :
    t.scopeBefore s mark i = s.inside t.value t.children := by
  rw [scopeBefore, if_pos entered]
  refine scope_resolveAllIn (fun u member => scope_behind fun n inside => quiet n ?_) _ _
  rw [preorderAll_eq_flatMap]
  exact List.mem_flatMap.mpr ⟨u, List.mem_of_mem_take member, inside⟩

/-- The children of a class are all visited, in the scope inside the class. -/
theorem child_of_opener (keeps : t.KeepsScopeInClasses) (visited : t.visit? p = some v)
    (entered : v.mark.entered = true)
    (opens : Scope.opensClass v.tree.value v.tree.children = true) {i : Nat} {tree : SyntaxTree}
    (at_i : v.tree.children[i]? = some tree) :
    v.child? i = some ⟨tree, v.scope.inside v.tree.value v.tree.children, { entered := true }⟩ := by
  have classLike := Scope.isClassLike_of_opens opens
  have here := at?_of_visit visited
  have quiet := keeps p (mem_places.mpr (by rw [here]; rfl)) v.tree here classLike
  have marks : Mark.ofChildren v.scope v.tree.value v.tree.children = Mark.plain v.tree.children := by
    cases kind : v.tree.value.kind with
    | declaration | anonymousClass => rw [Mark.ofChildren, kind]
    | _ =>
      rw [kind] at classLike
      cases classLike
  have mark : (Mark.plain v.tree.children)[i]? = some { entered := true } := by
    rw [Mark.plain, List.getElem?_map, at_i]
    rfl
  rw [Visit.child?, at_i, Option.map_some, scopeBefore_of_quiet quiet entered, marksBelow,
    if_pos entered, marks, mark]
  rfl

/-- A name that a clause lists gives the owner of the clause an edge. -/
theorem mem_origins_of_listed {q : Place} {clause : Visit} {form : ClauseForm} {j : Nat}
    {name : SyntaxTree} {target : String} (visited : t.visit? q = some clause)
    (entered : clause.mark.entered = true) (kind : clause.tree.value.kind = .clause form)
    (at_j : clause.tree.children[j]? = some name) (listed : name.value.isListedName = true)
    (named : (clause.scope.meaning name.value.text).bind Referent.name? = some target)
    (owner : t.resolve.owner? q = some p) :
    ⟨name.value.text, target, form.edgeKind, name.value.line⟩ ∈ t.origins p := by
  obtain ⟨read, isChild, rfl⟩ : ∃ read, clause.child? j = some read ∧ read.tree = name :=
    ⟨_, by rw [Visit.child?, at_j, Option.map_some], rfl⟩
  have isName : read.tree.value.isName = true := (Bool.and_eq_true_iff.mp listed).2
  have notType := Node.isType_of_isName isName
  have words : read.tree.value.words = [read.tree.value.text] := by
    rw [Node.words, notType, if_neg Bool.false_ne_true, if_pos isName]
  have readsIt : [j] ∈ clause.resolved.reads := by
    rw [singleton_mem_reads, Visit.toNode_resolved, Visit.children_resolved, isChild]
    exact .inl ⟨⟨form, kind⟩, read.resolved, rfl, by rw [Visit.toNode_resolved, listed]⟩
  have scope : clause.wordScope? read = some clause.scope := by
    dsimp only [Visit.wordScope?]
    rw [notType, if_neg Bool.false_ne_true, if_pos entered]
  refine mem_origins.mpr ⟨q, clause, read, clause.scope, form.edgeKind, owner,
    ⟨visited, ⟨[j], readsIt, ?_⟩, scope⟩, by rw [kind]; rfl, ?_, named, rfl⟩
  · rw [Visit.at?_singleton, isChild]
  · rw [words]
    exact List.mem_singleton.mpr rfl

/-- The clause that names the parent of a class gives the owner of the class an edge to it. -/
theorem inherits_of_parentNamed (keeps : t.KeepsScopeInClasses) (byName : t.ExtendsByName)
    (visited : t.visit? frame = some opener) (entered : opener.mark.entered = true)
    (opens : Scope.opensClass opener.tree.value opener.tree.children = true) {target : String}
    (parent : opener.scope.parentNamed opener.tree.children = some target)
    (owner : t.resolve.owner? frame = some p) :
    ∃ o ∈ t.origins p, o.edge.kind = .inherits ∧ o.edge.target = target := by
  obtain ⟨clause, isClause, parent⟩ := Option.bind_eq_some_iff.mp parent
  obtain ⟨name, isFirst, named⟩ := Option.bind_eq_some_iff.mp parent
  have kind : clause.value.kind = .clause .parents := by
    have tested := List.find?_some isClause
    simp only [Bool.and_eq_true, beq_iff_eq] at tested
    exact tested.2
  have listed : name.value.isListedName = true := by
    have tested := List.find?_some isFirst
    exact tested
  obtain ⟨i, at_i⟩ := List.mem_iff_getElem?.mp (List.mem_of_find?_eq_some isClause)
  obtain ⟨j, at_j⟩ := List.mem_iff_getElem?.mp (List.mem_of_find?_eq_some isFirst)
  have clauseVisited : t.visit? (frame ++ [i]) = some ⟨clause,
      opener.scope.inside opener.tree.value opener.tree.children, { entered := true }⟩ := by
    rw [visit?_concat, visited, Option.bind_some, child_of_opener keeps visited entered opens at_i]
  have here := at?_of_visit clauseVisited
  have undeclared := declaredAt_of_closed clauseVisited (Scope.closed_of_kind (by rw [kind]; rfl))
  have clauseOwner : t.resolve.owner? (frame ++ [i]) = some p := by
    rw [owner?_concat, undeclared, if_neg (by simp), owner]
  obtain ⟨notSelf, notParent⟩ := byName _ (mem_places.mpr (by rw [here]; rfl)) clause here kind
    name (List.mem_of_getElem? at_j) listed
  -- The edge is read inside the class, and the parent was looked up outside it.
  have inside : ((opener.scope.inside opener.tree.value opener.tree.children).meaning
      name.value.text).bind Referent.name? = some target := by
    rw [Scope.inside_of_opens opens, Scope.meaning_outside _ notSelf notParent, named]
  exact ⟨_, mem_origins_of_listed clauseVisited rfl kind at_j listed inside clauseOwner, rfl, rfl⟩

/-- Where a word for the class around, or for its parent, is read, the node that opens the class
around has the owner of the word. -/
theorem exists_frames_of_origin {o : Origin} (member : o ∈ t.origins p) :
    ∃ s : Scope, (s.meaning o.word).bind Referent.name? = some o.edge.target ∧
      (s.enclosing = none ∨ ∃ frame below opener, t.Frames frame below opener s.enclosing ∧
        t.resolve.owner? frame = some p) := by
  obtain ⟨q, reader, read, s, kind, owner, reads, known, -, named, -⟩ := mem_origins.mp member
  obtain ⟨y, v, visited, entered, rfl, undeclared, sameOwner⟩ := reads.place known
  refine ⟨v.scope, named, ?_⟩
  rcases exists_frames visited entered with outside | ⟨frame, below, opener, rfl, frames⟩
  · exact .inl outside
  · refine .inr ⟨frame, below, opener, frames, ?_⟩
    rw [← frames.owner?_eq undeclared, sameOwner, owner]

end Tree

/-- Every edge of a class stems from a word of the source, counted imports apart. An edge that stems
from a word for the class around goes to the very class that has it. If no class has namespaces or
imports inside and no extends clause uses such words, an edge that stems from the word for the parent
goes where an edge of inheritance of the same class goes. -/
theorem FileRecord.edges_of_class_words (path : Pathname) (countsImports : Bool) (t : SyntaxTree) :
    let file := ofTree Rule.standard path countsImports t
    file.classes.length = t.resolve.declaring.length ∧
    ∀ (i : Nat) (p : Place) (name : String), t.resolve.declaring[i]? = some (p, name) →
      ∃ c, file.classes[i]? = some c ∧ c.name = name ∧
        c.edges.filter (·.kind ≠ .importStatement) = (t.origins p).map (·.edge) ∧
        (∀ o ∈ t.origins p, isSelfWord (bareWord o.word) = true → o.edge.target = c.name) ∧
        (t.KeepsScopeInClasses → t.ExtendsByName →
          ∀ o ∈ t.origins p, isParentWord (bareWord o.word) = true →
            ∃ e ∈ c.edges, e.kind = .inherits ∧ e.target = o.edge.target) := by
  refine ⟨length_classes Rule.standard path countsImports t, ?_⟩
  intro i p name declares
  obtain ⟨c, at_i, rfl, edges⟩ := getElem?_classes Rule.standard path countsImports t declares
  rw [Tree.gather_eq_origins] at edges
  refine ⟨c, at_i, rfl, edges, ?_, ?_⟩
  · intro o member isSelf
    obtain ⟨s, named, place⟩ := Tree.exists_frames_of_origin member
    obtain ⟨around, inside, aroundName⟩ := Scope.enclosing_of_self isSelf named
    rcases place with outside | ⟨frame, below, opener, frames, owner⟩
    · cases outside.symm.trans inside
    · have declared := frames.declaredAt_eq inside aroundName
      have same : frame = p :=
        Option.some.inj ((Tree.owner?_of_declaredAt declared).symm.trans owner)
      obtain ⟨q, -, found⟩ := List.mem_filterMap.mp (List.mem_of_getElem? declares)
      obtain ⟨name, declared', pair⟩ := Option.map_eq_some_iff.mp found
      cases pair
      rw [same] at declared
      exact Option.some.inj (declared.symm.trans declared')
  · intro keeps byName o member isParent
    obtain ⟨s, named, place⟩ := Tree.exists_frames_of_origin member
    obtain ⟨around, inside, parent⟩ := Scope.enclosing_of_parent isParent named
    rcases place with outside | ⟨frame, below, opener, frames, owner⟩
    · cases outside.symm.trans inside
    · obtain ⟨inherits, member, kind, target⟩ := Tree.inherits_of_parentNamed keeps byName
        frames.visited frames.entered frames.opens (frames.parentNamed_eq inside parent) owner
      have edge : inherits.edge ∈ c.edges.filter (·.kind ≠ .importStatement) := by
        rw [edges]
        exact List.mem_map_of_mem member
      exact ⟨inherits.edge, (List.mem_filter.mp edge).1, kind, target⟩

/-- A class with a parent that takes a type with words for the class itself, and makes an object of an
anonymous class with another parent. In both classes the word for the parent is used. -/
def Tree.sampleFamily : SyntaxTree :=
  let word (text : String) (field : Option Field) : SyntaxTree :=
    .node { kind := .name .simple, text, field } []
  let call (text : String) : SyntaxTree :=
    .node { kind := .memberAccess .call } [word text (some .scope)]
  .node { kind := .other "program" }
    [.node { kind := .declaration .plain }
      [word "A" (some .name),
       .node { kind := .clause .parents } [word "B" none],
       .node { kind := .other "declaration_list", field := some .body }
        [.node { kind := .method }
          [.node { kind := .typeExpression .union, text := "D|STATIC" } [],
           call "Parent",
           .node { kind := .creation }
            [.node { kind := .anonymousClass }
              [.node { kind := .clause .parents } [word "C" none],
               call "self",
               call "parent"]]]]]]

theorem FileRecord.edges_of_class_words_sampleFamily :
    Tree.sampleFamily.KeepsScopeInClasses ∧ Tree.sampleFamily.ExtendsByName ∧
      Tree.sampleFamily.resolve.declaring[0]? = some ([0], "A") ∧
      (Tree.sampleFamily.origins [0]).map (fun o => (o.word, o.edge.target)) =
        [("B", "B"), ("D", "D"), ("STATIC", "A"), ("Parent", "B"), ("C", "C"), ("parent", "C")] ∧
      ∃ c, (ofTree Rule.standard ⟨"A.php"⟩ false Tree.sampleFamily).classes[0]? = some c ∧
        (∀ o ∈ Tree.sampleFamily.origins [0], isSelfWord (bareWord o.word) = true →
          o.edge.target = c.name) ∧
        ∀ o ∈ Tree.sampleFamily.origins [0], isParentWord (bareWord o.word) = true →
          ∃ e ∈ c.edges, e.kind = .inherits ∧ e.target = o.edge.target := by
  have keeps : Tree.sampleFamily.KeepsScopeInClasses := by decide +kernel
  have byName : Tree.sampleFamily.ExtendsByName := by decide +kernel
  have declares : Tree.sampleFamily.resolve.declaring[0]? = some ([0], "A") := by decide +kernel
  obtain ⟨c, at_0, -, -, self, parent⟩ :=
    (edges_of_class_words ⟨"A.php"⟩ false Tree.sampleFamily).2 0 [0] "A" declares
  exact ⟨keeps, byName, declares, by decide +kernel, c, at_0, self, parent keeps byName⟩

end ClassGraph
