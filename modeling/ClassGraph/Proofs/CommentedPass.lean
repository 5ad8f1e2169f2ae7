import ClassGraph.Proofs.Remarks

namespace ClassGraph

/-- Whether a node reads its first named child as a class. -/
def Kind.readsFirst : Kind → Bool
  | .creation | .constantAccess => true
  | _ => false

/-- A node that does not read the first of its named children, or finds no class named there. -/
def Node.LeavesFirst (n : Node) (children : List SyntaxTree) : Prop :=
  n.kind.readsFirst = true → ∀ first ∈ children.find? (·.value.named),
    first.value.isName = false ∧ first.value.kind.isType = false

namespace Mark

theorem zip_map_zip {α β γ : Type} (l : List α) (marks : List β) (g : α × β → γ) :
    l.zip ((l.zip marks).map g) = (l.zip marks).map fun x => (x.1, g x) := by
  induction l generalizing marks with
  | nil => rfl
  | cons a l ih =>
    cases marks with
    | nil => rfl
    | cons mark marks => exact congrArg (_ :: ·) (ih marks)

theorem entering_none (s : Scope) (children : List SyntaxTree) :
    entering s (children.map fun _ => false) children = plain children := by
  induction children with
  | nil => rfl
  | cons child rest ih => exact congrArg (_ :: ·) ih

theorem length_markFirst {α : Type} (p : α → Bool) (l : List α) :
    (markFirst p l).length = l.length := by
  induction l with
  | nil => rfl
  | cons a l ih =>
    rw [markFirst]
    split <;> simp [ih]

theorem length_ofChildren (s : Scope) (n : Node) (children : List SyntaxTree) :
    (ofChildren s n children).length = children.length := by
  have entered (p : SyntaxTree → Bool) :
      (entering s (markFirst p children) children).length = children.length := by
    simp [entering, length_markFirst]
  unfold ofChildren
  cases n.kind with
  | binary =>
    dsimp only
    split
    · exact entered _
    · exact List.length_map _
  | _ => simp [entered, length_markFirst, plain]

theorem map_fst_ofChildren (s : Scope) (n : Node) (children : List SyntaxTree) :
    (children.zip (ofChildren s n children)).map (·.1) = children :=
  List.map_fst_zip (length_ofChildren s n children).ge

theorem map_snd_ofChildren (s : Scope) (n : Node) (children : List SyntaxTree) :
    (children.zip (ofChildren s n children)).map (·.2) = ofChildren s n children :=
  List.map_snd_zip (length_ofChildren s n children).le

/-- Where no name is chosen, no child is given a name. -/
theorem entering_eq_plain {s : Scope} {p : SyntaxTree → Bool} {children : List SyntaxTree}
    (unnamed : ∀ first ∈ children.find? p, first.value.isName = false) :
    entering s (markFirst p children) children = plain children := by
  induction children with
  | nil => rfl
  | cons child rest ih =>
    rw [List.find?_cons] at unnamed
    cases chosen : p child with
    | true =>
      rw [chosen] at unnamed
      have noName : child.value.isName = false := unnamed child rfl
      have firstMark : entering s (true :: rest.map fun _ => false) (child :: rest) =
          { entered := true } :: entering s (rest.map fun _ => false) rest := by
        simp [entering, noName]
      rw [markFirst, chosen, if_pos rfl, firstMark, entering_none]
      rfl
    | false =>
      rw [chosen] at unnamed
      rw [markFirst, chosen, if_neg Bool.false_ne_true]
      exact congrArg (_ :: ·) (ih unnamed)

open ClassGraph.Tree

/-- Entering the chosen children gives related ones the same mark, and the further ones no name. -/
theorem spread_entering {before : Node → List SyntaxTree → Prop} {free : Bool}
    {children children' : List SyntaxTree} {chosen chosen' : List Bool} (s : Scope)
    (spread : Spread (Spread.Marked (Commented before)) (fun x => IsRemark x.1 ∧ x.2 = false)
      (·.1.value.named) free (children.zip chosen) (children'.zip chosen')) :
    Spread (Spread.Marked (Commented before)) (fun x => IsRemark x.1 ∧ x.2.names = [])
      (·.1.value.named) free (children.zip (entering s chosen children))
      (children'.zip (entering s chosen' children')) := by
  rw [entering, entering, zip_map_zip, zip_map_zip]
  refine spread.map ?_ ?_ fun _ => rfl
  · rintro ⟨t, isChosen⟩ ⟨t', isChosen'⟩ ⟨commented, same⟩
    cases (same : isChosen = isChosen')
    have isName : t.value.isName = t'.value.isName := commented.congr Node.isName fun _ => rfl
    have text : t.value.text = t'.value.text := commented.congr Node.text fun _ => rfl
    refine ⟨commented, ?_⟩
    simp only [isName, text]
  · rintro ⟨t, isChosen⟩ ⟨remark, unchosen⟩
    cases (unchosen : isChosen = false)
    exact ⟨remark, rfl⟩

/-- The marks of the children pass over the remarks. -/
theorem ofChildren_spread {n n' : Node} {free : Bool} {children children' : List SyntaxTree}
    (s : Scope) (same : n.unplaced = n'.unplaced) (allowed : free = true → n.LeavesFirst children)
    (spread : Spread (Commented Node.LeavesFirst) IsRemark (·.value.named) free children children') :
    Spread (Spread.Marked (Commented Node.LeavesFirst)) (fun x => IsRemark x.1 ∧ x.2.names = [])
      (·.1.value.named) free (children.zip (ofChildren s n children))
      (children'.zip (ofChildren s n' children')) := by
  have kind : n.kind = n'.kind := Node.kind_of_unplaced same
  have mapped (f : SyntaxTree → Mark) (alike : ∀ t t', Commented Node.LeavesFirst t t' → f t = f t')
      (unnamed : ∀ t, IsRemark t → (f t).names = []) :
      Spread (Spread.Marked (Commented Node.LeavesFirst)) (fun x => IsRemark x.1 ∧ x.2.names = [])
        (·.1.value.named) free (children.zip (children.map f)) (children'.zip (children'.map f)) :=
    spread.zip_map (P := fun mark => mark.names = []) alike unnamed
  have filling (field : Field) := spread.zip_markFirst (p := (·.value.fills field))
    (fun _ _ commented => commented.congr (·.fills field) fun _ => rfl)
    (fun _ remark => remark.unfilled field)
  have named (t t' : SyntaxTree) (commented : Commented Node.LeavesFirst t t') :
      t.value.named = t'.value.named :=
    commented.congr Node.named fun _ => rfl
  -- A remark may come first among the named children only where no class is named.
  have first (reads : n.kind.readsFirst = true) :
      Spread (Spread.Marked (Commented Node.LeavesFirst)) (fun x => IsRemark x.1 ∧ x.2.names = [])
        (·.1.value.named) free
        (children.zip (entering s (markFirst (·.value.named) children) children))
        (children'.zip (entering s (markFirst (·.value.named) children') children')) := by
    cases free with
    | false => exact spread_entering s (spread.zip_markFirst_opens named)
    | true =>
      have unnamed : ∀ first ∈ children.find? (·.value.named), first.value.isName = false :=
        fun first isFirst => (allowed rfl reads first isFirst).1
      have unnamed' : ∀ first ∈ children'.find? (·.value.named), first.value.isName = false := by
        intro first isFirst
        rcases spread.first named fun _ remark => remark.named with related | ⟨-, c, remark, found⟩
        · rw [isFirst] at related
          generalize found : children.find? _ = source at related
          cases related with
          | some commented =>
            rw [← commented.congr Node.isName fun _ => rfl]
            exact unnamed _ found
        · rw [isFirst] at found
          cases found
          exact remark.isName
      rw [entering_eq_plain unnamed, entering_eq_plain unnamed']
      exact mapped _ (fun _ _ _ => rfl) fun _ _ => rfl
  unfold ofChildren
  rw [← kind, ← isClassTest_spread spread]
  cases known : n.kind with
  | namespaceDefinition =>
    rw [List.zip_map_right, List.zip_map_right]
    refine (filling .body).map ?_ ?_ fun _ => rfl
    · rintro ⟨t, isBody⟩ ⟨t', isBody'⟩ ⟨commented, same⟩
      cases (same : isBody = isBody')
      exact ⟨commented, rfl⟩
    · intro x remark
      exact ⟨remark.1, rfl⟩
  | clause form =>
    refine mapped _ (fun t t' commented => ?_) fun t remark => ?_
    · rw [commented.congr Node.isListedName fun _ => rfl, commented.congr Node.text fun _ => rfl]
    · rw [remark.unlisted]
      rfl
  | creation | constantAccess => exact first (by rw [known]; rfl)
  | memberAccess form => exact spread_entering s (filling .scope)
  | binary =>
    dsimp only
    split
    · exact spread_entering s (filling .right)
    · exact mapped _ (fun _ _ _ => rfl) fun _ _ => rfl
  | _ => exact mapped _ (fun _ _ _ => rfl) fun _ _ => rfl

end Mark

/-- A resolved node apart from where it stands in the source. -/
def ResolvedNode.unplaced (n : ResolvedNode) : ResolvedNode :=
  { n with toNode := n.toNode.unplaced }

theorem ResolvedNode.congr_of_unplaced {β : Type} {n n' : ResolvedNode}
    (same : n.unplaced = n'.unplaced) (q : ResolvedNode → β)
    (blind : ∀ n : ResolvedNode, q n.unplaced = q n) : q n = q n' :=
  (blind n).symm.trans ((congrArg q same).trans (blind n'))

namespace Tree

/-- What the pass makes of a remark: a comment without names. -/
inductive IsSilent : ResolvedTree → Prop
  | leaf {n : ResolvedNode} (kind : n.kind = .comment) (named : n.named = true)
      (field : n.field = none) (names : n.names = []) (declares : n.declares = none) :
      IsSilent (node n [])

/-- Resolved trees that tell the same: they differ in silent leaves only. Where the first named child
is read, a silent leaf stands in front of it only if it has no names. -/
inductive TellsSame : ResolvedTree → ResolvedTree → Prop
  | node {n n' : ResolvedNode} {free : Bool} {children children' : List ResolvedTree}
      (same : n.unplaced = n'.unplaced)
      (unnamed : free = true → n.kind.readsFirst = true →
        ∀ first ∈ children.find? (·.value.named), first.value.names = [])
      (spread : Spread TellsSame IsSilent (·.value.named) free children children') :
      TellsSame (node n children) (node n' children')

section Pass

variable {t : SyntaxTree} {s : Scope} {mark : Mark}

theorem IsRemark.silent (remark : IsRemark t) (unnamed : mark.names = []) :
    IsSilent (t.resolveMarked s mark) := by
  cases remark with
  | @leaf n kind named field =>
    unfold resolveMarked
    split
    · have noNames : mark.names ++ s.ownNames n = [] := by
        rw [unnamed, Scope.ownNames, kind]
        rfl
      have noClass : s.declared n [] = none := by rw [Scope.declared, kind]
      exact .leaf kind named field noNames noClass
    · exact .leaf kind named field unnamed rfl

theorem IsRemark.scopeBehind (remark : IsRemark t) : t.scopeBehind s mark = s := by
  cases remark with
  | @leaf n kind =>
    unfold Tree.scopeBehind
    split
    · show s.after n [] (s.inside n []) = s
      simp [Scope.after, Scope.inside, Scope.opensClass, Scope.enclosingInside, kind]
    · rfl

/-- The pass over children with marks makes the same of related ones, and leaves the same scope. -/
theorem resolveAllIn_spread {free : Bool} {pairs pairs' : List (SyntaxTree × Mark)}
    (spread : Spread (Spread.Marked fun t t' => ∀ s mark,
        TellsSame (t.resolveMarked s mark) (t'.resolveMarked s mark) ∧
          t.scopeBehind s mark = t'.scopeBehind s mark)
      (fun x => IsRemark x.1 ∧ x.2.names = []) (·.1.value.named) free pairs pairs') (s : Scope) :
    Spread TellsSame IsSilent (·.value.named) free
        (resolveAllIn s (pairs.map (·.2)) (pairs.map (·.1))).1
        (resolveAllIn s (pairs'.map (·.2)) (pairs'.map (·.1))).1 ∧
      (resolveAllIn s (pairs.map (·.2)) (pairs.map (·.1))).2 =
        (resolveAllIn s (pairs'.map (·.2)) (pairs'.map (·.1))).2 := by
  induction spread generalizing s with
  | nil => exact ⟨.nil, rfl⟩
  | @keep free x y xs ys marked rest ih =>
    obtain ⟨t, mark⟩ := x
    obtain ⟨t', mark'⟩ := y
    obtain ⟨alike, same⟩ := marked
    cases (same : mark = mark')
    obtain ⟨tells, scope⟩ := alike s mark
    obtain ⟨others, last⟩ := ih (t.scopeBehind s mark)
    simp only [List.map_cons, resolveAllIn_cons]
    rw [← (scope : t.scopeBehind s mark = t'.scopeBehind s mark)]
    refine ⟨.keep tells ?_, last⟩
    rw [toNode_resolveMarked]
    exact others
  | @insert x xs ys remark rest ih =>
    obtain ⟨t, mark⟩ := x
    obtain ⟨isRemark, unnamed⟩ := remark
    obtain ⟨others, last⟩ := ih s
    simp only [List.map_cons, resolveAllIn_cons]
    rw [show t.scopeBehind s mark = s from IsRemark.scopeBehind isRemark]
    exact ⟨.insert (IsRemark.silent isRemark unnamed) others, last⟩

/-- Where no class is named first among the named children of a node, the pass gives the first one no
name. -/
theorem names_first {n : Node} {children : List SyntaxTree} (leaves : n.LeavesFirst children)
    (reads : n.kind.readsFirst = true) {first : ResolvedTree}
    (found : ((node n children).resolveMarked s mark).children.find? (·.value.named) = some first) :
    first.value.names = [] := by
  have nodes := nodes_resolveMarked s mark (node n children)
  have sameFirst : (((node n children).resolveMarked s mark).children.find? (·.value.named)).map
      (·.value.toNode) = (children.find? (·.value.named)).map value := by
    have firsts := congrArg (List.find? Node.named) nodes
    rw [List.find?_map, List.find?_map] at firsts
    exact firsts
  rw [found, Option.map_some] at sameFirst
  obtain ⟨source, isFirst, same⟩ := Option.map_eq_some_iff.mp sameFirst.symm
  obtain ⟨noName, noType⟩ := leaves reads source isFirst
  by_contra named
  obtain ⟨i, at_i⟩ := List.mem_iff_getElem?.mp (List.mem_of_find?_eq_some found)
  rcases read_of_child_names at_i named with isType | ⟨isName, -⟩
  · rw [← same, noType] at isType
    cases isType
  · rw [← same, noName] at isName
    cases isName

/-- What is noted at a node, apart from its place. -/
theorem resolveNode_spread {n n' : Node} {free : Bool} {children children' : List SyntaxTree}
    {before : Node → List SyntaxTree → Prop} (s : Scope) (given : List String)
    (same : n.unplaced = n'.unplaced)
    (spread : Spread (Commented before) IsRemark (·.value.named) free children children') :
    (s.resolveNode given n children).unplaced = (s.resolveNode given n' children').unplaced := by
  have own : s.ownNames n = s.ownNames n' := Node.congr_of_unplaced same s.ownNames fun _ => rfl
  have kind : n.kind = n'.kind := Node.kind_of_unplaced same
  simp only [Scope.resolveNode, ResolvedNode.unplaced, same, own, kind,
    Scope.declared_spread s same spread, importsOf_spread spread]

/-- The pass makes of a commented tree what it makes of the tree. -/
theorem Commented.tellsSame {t' : SyntaxTree} (commented : Commented Node.LeavesFirst t t')
    (s : Scope) (mark : Mark) : TellsSame (t.resolveMarked s mark) (t'.resolveMarked s mark) ∧
      t.scopeBehind s mark = t'.scopeBehind s mark := by
  induction t using Tree.induction generalizing t' s mark with
  | node n children ih =>
    cases commented with
    | @node _ n' free _ children' same allowed spread =>
      have unnamed (isFree : free = true) (reads : n.kind.readsFirst = true) :
          ∀ first ∈ ((Tree.node n children).resolveMarked s mark).children.find? (·.value.named),
            first.value.names = [] :=
        fun first found => names_first (allowed isFree) reads found
      cases entered : mark.entered with
      | true =>
        have pairs := (Mark.ofChildren_spread s same allowed spread).imp
          (S := Spread.Marked fun t t' => ∀ s mark,
            TellsSame (t.resolveMarked s mark) (t'.resolveMarked s mark) ∧
              t.scopeBehind s mark = t'.scopeBehind s mark)
          fun x member y marked => ⟨ih x.1 (List.of_mem_zip member).1 marked.1, marked.2⟩
        obtain ⟨below, last⟩ := resolveAllIn_spread pairs (s.inside n children)
        rw [Mark.map_fst_ofChildren, Mark.map_snd_ofChildren, Mark.map_fst_ofChildren,
          Mark.map_snd_ofChildren] at below last
        simp only [resolveMarked, Tree.scopeBehind, entered, if_true, resolveIn] at unnamed ⊢
        rw [← Scope.inside_spread s same spread, ← last, Scope.after_spread s same spread]
        exact ⟨.node (resolveNode_spread s mark.names same spread) unnamed below, rfl⟩
      | false =>
        have left : Spread TellsSame IsSilent (·.value.named) free (children.map (leave []))
            (children'.map (leave [])) := by
          refine (spread.imp fun child member child' commented =>
            (ih child member commented s .skipped).1).map (fun _ _ tells => tells) ?_ ?_
          · intro c remark
            have silent : IsSilent (c.resolveMarked s .skipped) := remark.silent rfl
            exact silent
          · rintro ⟨m, below⟩
            rfl
        simp only [resolveMarked, Tree.scopeBehind, entered, Bool.false_eq_true, if_false, leave,
          leaveAll_eq_map] at unnamed ⊢
        have node : ({ n with names := mark.names } : ResolvedNode).unplaced =
            ({ n' with names := mark.names } : ResolvedNode).unplaced := by
          simp only [ResolvedNode.unplaced, same]
        exact ⟨.node node unnamed left, trivial⟩

end Pass

end Tree

end ClassGraph
