import ClassGraph.Proofs.Places
import ClassGraph.Syntax.Resolved

namespace ClassGraph

def Kind.isDeclaration : Kind → Bool
  | .declaration _ => true
  | _ => false

/-- The mark of a child that the pass does not reach. -/
def Mark.skipped : Mark :=
  { entered := false }

namespace Tree

/-- What the pass makes of a tree with a mark. -/
def resolveMarked (s : Scope) (mark : Mark) (t : SyntaxTree) : ResolvedTree :=
  if mark.entered then (t.resolveIn s mark.names).1 else t.leave mark.names

/-- The scope behind a tree with a mark. -/
def scopeBehind (s : Scope) (mark : Mark) (t : SyntaxTree) : Scope :=
  if mark.entered then (t.resolveIn s mark.names).2 else s

/-- The marks of the children of a tree with a mark. -/
def marksBelow (s : Scope) (mark : Mark) (t : SyntaxTree) : List Mark :=
  if mark.entered then Mark.ofChildren s t.value t.children else []

/-- The scope before the child with a number, in a tree with a mark. -/
def scopeBefore (s : Scope) (mark : Mark) (t : SyntaxTree) (i : Nat) : Scope :=
  if mark.entered then
    (resolveAllIn (s.inside t.value t.children) (t.marksBelow s mark) (t.children.take i)).2
  else s

theorem resolve_eq (t : SyntaxTree) : t.resolve = t.resolveMarked {} { entered := true } :=
  rfl

theorem leaveAll_eq_map (ts : List SyntaxTree) : leaveAll ts = ts.map (leave []) := by
  induction ts with
  | nil => rfl
  | cons t ts ih => rw [leaveAll, ih, List.map_cons]

theorem value_resolveMarked (s : Scope) (mark : Mark) (t : SyntaxTree) :
    (t.resolveMarked s mark).value =
      if mark.entered then s.resolveNode mark.names t.value t.children
      else { t.value with names := mark.names } := by
  obtain ⟨n, children⟩ := t
  unfold resolveMarked
  split <;> rfl

theorem toNode_resolveMarked (s : Scope) (mark : Mark) (t : SyntaxTree) :
    (t.resolveMarked s mark).value.toNode = t.value := by
  rw [value_resolveMarked]
  split <;> rfl

/-- A node has the names that its parent gives it, and its own if the pass enters it. -/
theorem names_resolveMarked (s : Scope) (mark : Mark) (t : SyntaxTree) :
    (t.resolveMarked s mark).value.names =
      mark.names ++ if mark.entered then s.ownNames t.value else [] := by
  rw [value_resolveMarked]
  split
  · rfl
  · exact (List.append_nil _).symm

theorem resolveAllIn_nil (s : Scope) (ts : List SyntaxTree) :
    resolveAllIn s [] ts = (ts.map (resolveMarked s .skipped), s) := by
  cases ts with
  | nil => rfl
  | cons t ts => exact congrArg (·, s) (leaveAll_eq_map (t :: ts))

theorem resolveAllIn_cons (s : Scope) (mark : Mark) (marks : List Mark) (t : SyntaxTree)
    (ts : List SyntaxTree) : resolveAllIn s (mark :: marks) (t :: ts) =
      (t.resolveMarked s mark :: (resolveAllIn (t.scopeBehind s mark) marks ts).1,
        (resolveAllIn (t.scopeBehind s mark) marks ts).2) := by
  cases entered : mark.entered <;> simp [resolveAllIn, resolveMarked, scopeBehind, entered]

theorem getElem?_resolveAllIn {s : Scope} {marks : List Mark} {ts : List SyntaxTree} {i : Nat}
    {u : ResolvedTree} (here : (resolveAllIn s marks ts).1[i]? = some u) :
    ∃ source, ts[i]? = some source ∧
      u = source.resolveMarked (resolveAllIn s marks (ts.take i)).2 (marks[i]?.getD .skipped) := by
  induction ts generalizing s marks i with
  | nil => cases here
  | cons t ts ih =>
    cases marks with
    | nil =>
      rw [resolveAllIn_nil, List.getElem?_map] at here
      obtain ⟨source, at_i, rfl⟩ := Option.map_eq_some_iff.mp here
      exact ⟨source, at_i, by rw [resolveAllIn_nil]; rfl⟩
    | cons mark marks =>
      rw [resolveAllIn_cons] at here
      cases i with
      | zero =>
        cases here
        exact ⟨t, rfl, rfl⟩
      | succ i =>
        rw [List.take_succ_cons, resolveAllIn_cons]
        exact ih here

theorem nodes_resolveAllIn (s : Scope) (marks : List Mark) (ts : List SyntaxTree) :
    (resolveAllIn s marks ts).1.map (·.value.toNode) = ts.map value := by
  induction ts generalizing s marks with
  | nil => rfl
  | cons t ts ih =>
    cases marks with
    | nil =>
      rw [resolveAllIn_nil, List.map_map]
      exact List.map_congr_left fun t _ => toNode_resolveMarked s .skipped t
    | cons mark marks =>
      rw [resolveAllIn_cons, List.map_cons, List.map_cons, ih, toNode_resolveMarked]

/-- The pass keeps the children of a tree as nodes. -/
theorem nodes_resolveMarked (s : Scope) (mark : Mark) (t : SyntaxTree) :
    (t.resolveMarked s mark).children.map (·.value.toNode) = t.children.map value := by
  obtain ⟨n, children⟩ := t
  unfold resolveMarked
  split
  · exact nodes_resolveAllIn _ _ children
  · rw [leave, Tree.children, leaveAll_eq_map, List.map_map]
    exact List.map_congr_left fun t _ => toNode_resolveMarked s .skipped t

/-- A child of what the pass makes of a tree is what it makes of the child, in the scope that the
children before it leave. -/
theorem child_resolveMarked {s : Scope} {mark : Mark} {t : SyntaxTree} {i : Nat} {u : ResolvedTree}
    (here : (t.resolveMarked s mark).children[i]? = some u) :
    ∃ source, t.children[i]? = some source ∧ u = source.resolveMarked (t.scopeBefore s mark i)
      ((t.marksBelow s mark)[i]?.getD .skipped) := by
  obtain ⟨n, children⟩ := t
  unfold resolveMarked at here
  unfold scopeBefore marksBelow
  split at here
  · rw [if_pos ‹_›, if_pos ‹_›]
    exact getElem?_resolveAllIn here
  · rw [if_neg ‹_›, if_neg ‹_›]
    rw [leave, Tree.children, leaveAll_eq_map, List.getElem?_map] at here
    obtain ⟨source, at_i, rfl⟩ := Option.map_eq_some_iff.mp here
    exact ⟨source, at_i, rfl⟩

/-- The pass keeps the shape of a tree, and every part of the result is made of the part of the
source at the same place. -/
theorem at?_resolveMarked {s : Scope} {mark : Mark} {t : SyntaxTree} {p : Place} {u : ResolvedTree}
    (here : (t.resolveMarked s mark).at? p = some u) :
    ∃ source s' mark', t.at? p = some source ∧ u = source.resolveMarked s' mark' := by
  induction p generalizing s mark t with
  | nil =>
    rw [at?_nil] at here
    cases here
    exact ⟨t, s, mark, at?_nil t, rfl⟩
  | cons i p ih =>
    obtain ⟨child, at_i, inChild⟩ := Option.bind_eq_some_iff.mp here
    obtain ⟨source, at_i', rfl⟩ := child_resolveMarked at_i
    obtain ⟨below, s'', mark'', place, made⟩ := ih inChild
    exact ⟨below, s'', mark'', by rw [at?, at_i', Option.bind_some, place], made⟩

/-- Below a tree that the pass does not enter, no node has names. -/
theorem names_below_left {s : Scope} {mark : Mark} (left : mark.entered = false) {t : SyntaxTree}
    {i : Nat} {q : Place} {v : ResolvedTree}
    (below : (t.resolveMarked s mark).at? (i :: q) = some v) : v.value.names = [] := by
  induction q generalizing s mark t i with
  | nil =>
    rw [at?_singleton] at below
    obtain ⟨source, -, rfl⟩ := child_resolveMarked below
    rw [marksBelow, left, names_resolveMarked]
    rfl
  | cons j q ih =>
    obtain ⟨child, at_i, inChild⟩ := Option.bind_eq_some_iff.mp below
    obtain ⟨source, -, rfl⟩ := child_resolveMarked at_i
    refine ih ?_ inChild
    rw [marksBelow, left]
    rfl

theorem at?_resolve {t : SyntaxTree} {p : Place} {u : ResolvedTree}
    (here : t.resolve.at? p = some u) :
    ∃ source s mark, t.at? p = some source ∧ u = source.resolveMarked s mark := by
  rw [resolve_eq] at here
  exact at?_resolveMarked here

/-- Only declarations declare classes. -/
theorem declaration_of_declares {t : SyntaxTree} {p : Place} {u : ResolvedTree} {name : String}
    (here : t.resolve.at? p = some u) (declares : u.value.declares = some name) :
    ∃ form, u.value.kind = .declaration form := by
  obtain ⟨source, s, mark, -, rfl⟩ := at?_resolve here
  rw [value_resolveMarked] at declares ⊢
  split at declares
  · rw [if_pos ‹_›]
    cases kind : source.value.kind with
    | declaration form => exact ⟨form, kind⟩
    | _ =>
      rw [Scope.resolveNode, Scope.declared, kind] at declares
      cases declares
  · cases declares

theorem undeclared_of_kind {t : SyntaxTree} {p : Place} {u : ResolvedTree}
    (here : t.resolve.at? p = some u) (kind : u.value.kind.isDeclaration = false) :
    u.value.declares = none := by
  cases declares : u.value.declares with
  | none => rfl
  | some name =>
    obtain ⟨form, declaration⟩ := declaration_of_declares here declares
    rw [declaration] at kind
    cases kind

end Tree

end ClassGraph
