import ClassGraph.Proofs.ClassFrames

namespace ClassGraph

namespace Tree

/-- No node below a tree, down to the one at a place, opens a class. -/
def clearTo : SyntaxTree → Place → Bool
  | _, [] => true
  | t, i :: q => t.children[i]?.all fun child =>
    !Scope.opensClass child.value child.children && child.clearTo q

theorem clearTo_cons {t child : SyntaxTree} {i : Nat} {q : Place} (at_i : t.children[i]? = some child) :
    t.clearTo (i :: q) = true ↔
      Scope.opensClass child.value child.children = false ∧ child.clearTo q = true := by
  rw [clearTo, at_i, Option.all_some, Bool.and_eq_true, Bool.not_eq_true']

theorem clearTo_of_append {t : SyntaxTree} {q r : Place} (clear : t.clearTo (q ++ r) = true) :
    t.clearTo q = true := by
  induction q generalizing t with
  | nil => rfl
  | cons i q ih =>
    cases at_i : t.children[i]? with
    | none =>
      rw [clearTo, at_i]
      rfl
    | some child =>
      obtain ⟨closed, below⟩ := (clearTo_cons at_i).mp clear
      exact (clearTo_cons at_i).mpr ⟨closed, ih below⟩

end Tree

namespace Scope

theorem inside_of_quiet {s : Scope} {n : Node} {children : List SyntaxTree}
    (closed : opensClass n children = false) (quiet : n.kind.changesScope = false) :
    s.inside n children = s := by
  have notSpace : n.kind ≠ .namespaceDefinition := by
    intro kind
    rw [kind] at quiet
    cases quiet
  rw [inside, if_neg notSpace, enclosingInside_of_closed closed]

/-- A word names the same with another class around, unless it is a word for that class and the
names differ, or the one for the parent and the parents differ. -/
theorem name?_meaning_iff (s : Scope) (around : Option EnclosingClass) (word : String) :
    (({ s with enclosing := around } : Scope).meaning word).bind Referent.name? =
        (s.meaning word).bind Referent.name? ↔
      (isSelfWord (bareWord word) = true → around.bind (·.name) = s.enclosing.bind (·.name)) ∧
      (isParentWord (bareWord word) = true →
        around.bind (·.parent) = s.enclosing.bind (·.parent)) := by
  cases isSelf : isSelfWord (bareWord word) with
  | true =>
    have notParent : ¬ isParentWord (bareWord word) = true := fun isParent =>
      Bool.false_ne_true ((isSelfWord_of_parent isParent).symm.trans isSelf)
    rw [name?_meaning_of_self isSelf, name?_meaning_of_self isSelf]
    exact ⟨fun same => ⟨fun _ => same, fun isParent => absurd isParent notParent⟩,
      fun same => same.1 rfl⟩
  | false =>
    cases isParent : isParentWord (bareWord word) with
    | true =>
      rw [name?_meaning_of_parent isParent, name?_meaning_of_parent isParent]
      exact ⟨fun same => ⟨nofun, fun _ => same⟩, fun same => same.2 rfl⟩
    | false =>
      rw [meaning_outside around isSelf isParent]
      exact ⟨fun _ => ⟨nofun, nofun⟩, fun _ => rfl⟩

end Scope

namespace Visit

variable {v w : Visit} {q : Place} {j : Nat}

theorem entered_of_below (there : v.at? q = some w) (entered : w.mark.entered = true) :
    v.mark.entered = true := by
  induction q generalizing v with
  | nil =>
    cases there
    exact entered
  | cons i q ih =>
    obtain ⟨child, isChild, inChild⟩ := Option.bind_eq_some_iff.mp there
    exact entered_above isChild (ih inChild)

/-- Below a tree, with no further class on the way, the class around is the one around its children,
or a namespace has left it. -/
theorem enclosing_below (there : v.at? (q ++ [j]) = some w) (entered : w.mark.entered = true)
    (clear : v.tree.clearTo q = true) : w.scope.enclosing = none ∨
      w.scope.enclosing = (v.scope.inside v.tree.value v.tree.children).enclosing := by
  induction q generalizing v with
  | nil =>
    rw [List.nil_append, at?_singleton] at there
    exact enclosing_child there entered
  | cons i q ih =>
    obtain ⟨child, isChild, inChild⟩ := Option.bind_eq_some_iff.mp there
    have childEntered := entered_of_below inChild entered
    have outer := enclosing_child isChild childEntered
    obtain ⟨tree, at_i, rfl⟩ := Option.map_eq_some_iff.mp isChild
    obtain ⟨closed, below⟩ := (Tree.clearTo_cons at_i).mp clear
    -- The child opens no class, so that only a namespace could change the class around below it.
    rcases ih inChild below with left | kept
    · exact .inl left
    · rcases Scope.enclosing_inside_of_closed closed with left | same
      · exact .inl (kept.trans left)
      · rw [kept, same]
        exact outer

/-- Where nothing below a tree changes the namespace or the imports, the scope is the one of its
children all the way. -/
theorem scope_below (there : v.at? (q ++ [j]) = some w) (entered : w.mark.entered = true)
    (clear : v.tree.clearTo q = true)
    (quiet : ∀ n ∈ Tree.preorderAll v.tree.children, n.kind.changesScope = false) :
    w.scope = v.scope.inside v.tree.value v.tree.children := by
  have above := entered_of_below there entered
  induction q generalizing v with
  | nil =>
    rw [List.nil_append, at?_singleton] at there
    obtain ⟨tree, -, rfl⟩ := Option.map_eq_some_iff.mp there
    exact Tree.scopeBefore_of_quiet quiet above j
  | cons i q ih =>
    obtain ⟨child, isChild, inChild⟩ := Option.bind_eq_some_iff.mp there
    have childEntered := entered_of_below inChild entered
    obtain ⟨tree, at_i, rfl⟩ := Option.map_eq_some_iff.mp isChild
    obtain ⟨closed, below⟩ := (Tree.clearTo_cons at_i).mp clear
    have quietChild : ∀ n ∈ tree.preorder, n.kind.changesScope = false := by
      intro n inside
      refine quiet n ?_
      rw [Tree.preorderAll_eq_flatMap]
      exact List.mem_flatMap.mpr ⟨tree, List.mem_of_getElem? at_i, inside⟩
    obtain ⟨n, children⟩ := tree
    have quietBelow : ∀ m ∈ Tree.preorderAll children, m.kind.changesScope = false :=
      fun m inside => quietChild m (List.mem_cons_of_mem n inside)
    rw [ih inChild below quietBelow childEntered]
    exact (Scope.inside_of_quiet closed (quietChild n (List.mem_cons_self ..))).trans
      (Tree.scopeBefore_of_quiet quiet above i)

end Visit

/-- Words that are read below a tree, with no further class on the way, are read at a place below. -/
theorem Tree.ReadsWords.exists_below {t : SyntaxTree} {p q : Place} {v reader read : Visit} {s : Scope}
    (reads : t.ReadsWords (p ++ q) reader read s) (visited : t.visit? p = some v) (below : q ≠ [])
    (clear : v.tree.clearTo q = true) : ∃ q' j w, v.at? (q' ++ [j]) = some w ∧
      w.mark.entered = true ∧ w.scope = s ∧ v.tree.clearTo q' = true := by
  obtain ⟨r, w, there, entered, same, short, -⟩ := reads.exists_visit
  rw [List.append_assoc, visit?_append, visited, Option.bind_some] at there
  rcases short with rfl | ⟨i, rfl⟩
  -- A name is read where its reader stands, a type one step further down.
  · obtain ⟨q', j, rfl⟩ := (List.eq_nil_or_concat' q).resolve_left below
    rw [List.append_nil] at there
    exact ⟨q', j, w, there, entered, same, clearTo_of_append clear⟩
  · exact ⟨q, i, w, there, entered, same, clear⟩

/-- What words name inside the node of an anonymous class, its arguments included. The names that the
pass notes are the meanings of the words, and a word for the class around has none. The word for the
parent names at most what the anonymous class extends. If nothing in the class changes the namespace or
the imports, the words are read in the scope outside with the frame of the anonymous class in place of
the class around. So they name what they name outside, except for the words for a class that has a name
and the word for a parent that is not the one of the anonymous class. -/
theorem Tree.words_in_anonymous_class {t : SyntaxTree} {p q : Place} {v reader read : Visit} {s : Scope}
    (visited : t.visit? p = some v) (kind : v.tree.value.kind = .anonymousClass) (below : q ≠ [])
    (reads : t.ReadsWords (p ++ q) reader read s) (clear : v.tree.clearTo q = true) :
    let parent := v.scope.parentNamed v.tree.children
    read.resolved.value.names =
        read.tree.value.words.filterMap (fun word => (s.meaning word).bind Referent.name?) ∧
    (∀ word, isSelfWord (bareWord word) = true → (s.meaning word).bind Referent.name? = none) ∧
    (∀ word target, isParentWord (bareWord word) = true →
      (s.meaning word).bind Referent.name? = some target → parent = some target) ∧
    ((∀ n ∈ preorderAll v.tree.children, n.kind.changesScope = false) →
      s = { v.scope with enclosing := some ⟨none, parent⟩ } ∧
      ∀ word, (s.meaning word).bind Referent.name? = (v.scope.meaning word).bind Referent.name? ↔
        (isSelfWord (bareWord word) = true → v.scope.enclosing.bind (·.name) = none) ∧
        (isParentWord (bareWord word) = true → v.scope.enclosing.bind (·.parent) = parent)) := by
  intro parent
  have opens : Scope.opensClass v.tree.value v.tree.children = true := by
    rw [Scope.opensClass, kind]
  have inside : v.scope.inside v.tree.value v.tree.children =
      { v.scope with enclosing := some ⟨none, parent⟩ } := by
    rw [Scope.inside_of_opens opens, Scope.enclosingInside, kind]
  obtain ⟨q', j, w, there, entered, rfl, clear'⟩ := reads.exists_below visited below clear
  have around := Visit.enclosing_below there entered clear'
  rw [inside] at around
  refine ⟨?_, ?_, ?_, ?_⟩
  · obtain ⟨r, listed, readThere⟩ := reads.listed
    rw [names_of_words reads.visited listed readThere, reads.scope, Option.elim_some]
  · intro word isSelf
    rw [Scope.name?_meaning_of_self isSelf]
    rcases around with left | kept
    · rw [left, Option.bind_none]
    · rw [kept, Option.bind_some]
  · intro word target isParent named
    rw [Scope.name?_meaning_of_parent isParent] at named
    rcases around with left | kept
    · rw [left] at named
      cases named
    · rw [kept] at named
      exact named
  · intro quiet
    have scope := (Visit.scope_below there entered clear' quiet).trans inside
    refine ⟨scope, fun word => ?_⟩
    rw [scope, Scope.name?_meaning_iff, Option.bind_some, Option.bind_some]
    exact and_congr (imp_congr_right fun _ => eq_comm) (imp_congr_right fun _ => eq_comm)

/-- A class with a parent that makes an object of an anonymous class with another one. Expressions
stand in front of the object and among its arguments. -/
def Tree.sampleMaking (before arguments : List SyntaxTree) : SyntaxTree :=
  let word (text : String) (field : Option Field) : SyntaxTree :=
    .node { kind := .name .simple, text, field } []
  .node { kind := .other "program" }
    [.node { kind := .declaration .plain }
      [word "A" (some .name),
       .node { kind := .clause .parents } [word "B" none],
       .node { kind := .method }
        (before ++
          [.node { kind := .creation }
            [.node { kind := .anonymousClass }
              [.node { kind := .other "arguments" } arguments,
               .node { kind := .clause .parents } [word "C" none]]]])]]

/-- A constant of the class around and a call of its parent. -/
def Tree.sampleClassWords : List SyntaxTree :=
  [.node { kind := .constantAccess } [.node { kind := .name .keyword, text := "self" } []],
   .node { kind := .memberAccess .call }
    [.node { kind := .name .keyword, text := "parent", field := some .scope } []]]

theorem Tree.words_in_anonymous_class_sampleMaking :
    let t := sampleMaking [] sampleClassWords
    ∃ v reader read s, t.visit? [0, 2, 0, 0] = some v ∧ v.tree.value.kind = .anonymousClass ∧
      v.scope.enclosing = some ⟨some "A", some "B"⟩ ∧ v.tree.clearTo [0, 1] = true ∧
      t.ReadsWords [0, 2, 0, 0, 0, 1] reader read s ∧ read.tree.value.words = ["parent"] ∧
      s = { v.scope with enclosing := some ⟨none, some "C"⟩ } ∧
      read.resolved.value.names = ["C"] := by
  intro t
  have visited : t.visit? [0, 2, 0, 0] = some ⟨_, _, _⟩ := rfl
  have reads : t.ReadsWords ([0, 2, 0, 0] ++ [0, 1]) ⟨_, _, _⟩ ⟨_, _, _⟩ _ :=
    ⟨rfl, ⟨[0], by decide +kernel, rfl⟩, rfl⟩
  obtain ⟨names, -, -, quietly⟩ :=
    words_in_anonymous_class visited rfl (List.cons_ne_nil _ _) reads (by decide +kernel)
  obtain ⟨scope, -⟩ := quietly (by decide +kernel)
  refine ⟨_, _, _, _, visited, rfl, ?around, ?clear, reads, ?words, scope.trans ?frame,
    names.trans ?named⟩
  all_goals decide +kernel

/-- The words name the class around and its parent in front of the object, and not among its
arguments. -/
theorem FileRecord.arguments_lose_class :
    let record := fun t => (ofTree Rule.standard ⟨"A.php"⟩ false t).classes
    record (Tree.sampleMaking Tree.sampleClassWords []) =
        [⟨"A", [⟨"B", .inherits, 1⟩, ⟨"A", .classConstant, 1⟩, ⟨"B", .staticCall, 1⟩,
          ⟨"C", .inherits, 1⟩]⟩] ∧
      record (Tree.sampleMaking [] Tree.sampleClassWords) =
        [⟨"A", [⟨"B", .inherits, 1⟩, ⟨"C", .staticCall, 1⟩, ⟨"C", .inherits, 1⟩]⟩] := by
  decide +kernel

end ClassGraph
