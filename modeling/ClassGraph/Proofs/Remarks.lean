import Mathlib.Data.List.Forall2
import ClassGraph.Proofs.Annotation

namespace ClassGraph

/-- A list with further entries between its own, which may be replaced by related ones. Further
entries stand anywhere if the flag says so, else only behind an entry that opens the list to them. -/
inductive Spread {α : Type} (R : α → α → Prop) (further : α → Prop) (opens : α → Bool) :
    Bool → List α → List α → Prop
  | nil {free} : Spread R further opens free [] []
  | keep {free a b as bs} : R a b → Spread R further opens (free || opens a) as bs →
      Spread R further opens free (a :: as) (b :: bs)
  | insert {c as bs} : further c → Spread R further opens true as bs →
      Spread R further opens true as (c :: bs)

theorem map_eq_of_rel {α β : Type} {R : α → α → Prop} {x y : Option α} (related : Option.Rel R x y)
    {f : α → β} (same : ∀ a b, R a b → f a = f b) : x.map f = y.map f := by
  cases related with
  | none => rfl
  | some ab => exact congrArg some (same _ _ ab)

theorem bind_eq_of_rel {α β : Type} {R : α → α → Prop} {x y : Option α} (related : Option.Rel R x y)
    {f : α → Option β} (same : ∀ a b, R a b → f a = f b) : x.bind f = y.bind f := by
  cases related with
  | none => rfl
  | some ab => exact same _ _ ab

theorem flatMap_eq_of_rel {α β : Type} {R : α → α → Prop} {x y : Option α}
    (related : Option.Rel R x y) {f : α → List β} (same : ∀ a b, R a b → f a = f b) :
    x.toList.flatMap f = y.toList.flatMap f := by
  cases related with
  | none => rfl
  | some ab => exact congrArg (· ++ []) (same _ _ ab)

theorem flatMap_eq_of_forall₂ {α β : Type} {R : α → α → Prop} {as bs : List α}
    (related : List.Forall₂ R as bs) {f : α → List β} (same : ∀ a b, R a b → f a = f b) :
    as.flatMap f = bs.flatMap f := by
  induction related with
  | nil => rfl
  | cons ab _ ih => rw [List.flatMap_cons, List.flatMap_cons, same _ _ ab, ih]

namespace Spread

variable {α β : Type} {R : α → α → Prop} {further : α → Prop} {opens : α → Bool} {free : Bool}
  {as bs : List α}

theorem imp {S : α → α → Prop} (spread : Spread R further opens free as bs)
    (weaker : ∀ a ∈ as, ∀ b, R a b → S a b) : Spread S further opens free as bs := by
  induction spread with
  | nil => exact .nil
  | keep ab _ ih =>
    exact .keep (weaker _ List.mem_cons_self _ ab)
      (ih fun a member => weaker a (List.mem_cons_of_mem _ member))
  | insert c _ ih => exact .insert c (ih weaker)

/-- Selecting entries that are told alike, and none of the further ones, selects related ones. -/
theorem filter (spread : Spread R further opens free as bs) {p : α → Bool}
    (alike : ∀ a b, R a b → p a = p b) (unseen : ∀ c, further c → p c = false) :
    List.Forall₂ R (as.filter p) (bs.filter p) := by
  induction spread with
  | nil => exact .nil
  | keep ab _ ih =>
    rw [List.filter_cons, List.filter_cons, ← alike _ _ ab]
    split
    · exact .cons ab ih
    · exact ih
  | insert c _ ih => rwa [List.filter_cons, unseen _ c, if_neg Bool.false_ne_true]

theorem find? (spread : Spread R further opens free as bs) {p : α → Bool}
    (alike : ∀ a b, R a b → p a = p b) (unseen : ∀ c, further c → p c = false) :
    Option.Rel R (as.find? p) (bs.find? p) := by
  have selected := spread.filter alike unseen
  rw [← List.head?_filter, ← List.head?_filter]
  generalize as.filter p = left at selected ⊢
  generalize bs.filter p = right at selected ⊢
  cases selected with
  | nil => exact .none
  | cons ab _ => exact .some ab

/-- The first entry that opens a list keeps its place, unless a further one stands in front of it. -/
theorem first (spread : Spread R further opens free as bs)
    (alike : ∀ a b, R a b → opens a = opens b) (opening : ∀ c, further c → opens c = true) :
    Option.Rel R (as.find? opens) (bs.find? opens) ∨
      free = true ∧ ∃ c, further c ∧ bs.find? opens = some c := by
  induction spread with
  | nil => exact .inl .none
  | @keep free a b as bs ab _ ih =>
    rw [List.find?_cons, List.find?_cons, ← alike a b ab]
    cases isOpen : opens a with
    | true => exact .inl (.some ab)
    | false =>
      rw [isOpen, Bool.or_false] at ih
      exact ih
  | insert c _ _ => exact .inr ⟨rfl, _, c, by rw [List.find?_cons, opening _ c]⟩

/-- Selecting the entries that open a list keeps the further ones. -/
theorem filter_opens (spread : Spread R further opens free as bs)
    (alike : ∀ a b, R a b → opens a = opens b) (opening : ∀ c, further c → opens c = true) :
    Spread R further opens free (as.filter opens) (bs.filter opens) := by
  induction spread with
  | nil => exact .nil
  | @keep free a b as bs ab _ ih =>
    rw [List.filter_cons, List.filter_cons, ← alike a b ab]
    cases isOpen : opens a with
    | true =>
      rw [isOpen] at ih
      exact .keep ab (isOpen ▸ ih)
    | false =>
      rw [isOpen, Bool.or_false] at ih
      exact ih
  | insert c _ ih =>
    rw [List.filter_cons, opening _ c]
    exact .insert c ih

theorem flatMap_eq (spread : Spread R further opens free as bs) {f g : α → List β}
    (alike : ∀ a b, R a b → f a = g b) (silent : ∀ c, further c → g c = []) :
    as.flatMap f = bs.flatMap g := by
  induction spread with
  | nil => rfl
  | keep ab _ ih => rw [List.flatMap_cons, List.flatMap_cons, alike _ _ ab, ih]
  | insert c _ ih => rw [List.flatMap_cons, silent _ c, List.nil_append, ih]

theorem filterMap_eq (spread : Spread R further opens free as bs) {f : α → Option β}
    (alike : ∀ a b, R a b → f a = f b) (silent : ∀ c, further c → f c = none) :
    as.filterMap f = bs.filterMap f := by
  induction spread with
  | nil => rfl
  | keep ab _ ih => rw [List.filterMap_cons, List.filterMap_cons, alike _ _ ab, ih]
  | insert c _ ih => rw [List.filterMap_cons, silent _ c, ih]

theorem map {S : β → β → Prop} {further' : β → Prop} {opens' : β → Bool}
    (spread : Spread R further opens free as bs) {f : α → β} (related : ∀ a b, R a b → S (f a) (f b))
    (extra : ∀ c, further c → further' (f c)) (same : ∀ a, opens' (f a) = opens a) :
    Spread S further' opens' free (as.map f) (bs.map f) := by
  induction spread with
  | nil => exact .nil
  | keep ab _ ih =>
    refine .keep (related _ _ ab) ?_
    rw [same]
    exact ih
  | insert c _ ih => exact .insert (extra _ c) ih

/-- Entries with a mark, related if they are and have the same mark. -/
def Marked (R : α → α → Prop) (x y : α × β) : Prop :=
  R x.1 y.1 ∧ x.2 = y.2

theorem zip_map (spread : Spread R further opens free as bs) {f : α → β} {P : β → Prop}
    (alike : ∀ a b, R a b → f a = f b) (extra : ∀ c, further c → P (f c)) :
    Spread (Marked R) (fun x => further x.1 ∧ P x.2) (opens ·.1) free (as.zip (as.map f))
      (bs.zip (bs.map f)) := by
  have paired (l : List α) : l.zip (l.map f) = l.map fun a => (a, f a) := by
    simpa using List.zip_map' (f := id) (g := f) (l := l)
  rw [paired, paired]
  exact spread.map (fun a b ab => ⟨ab, alike a b ab⟩)
    (fun c isFurther => ⟨isFurther, extra c isFurther⟩) fun _ => rfl

/-- The first entry of a sort that no further entry is of is the first one in both lists. -/
theorem zip_markFirst (spread : Spread R further opens free as bs) {p : α → Bool}
    (alike : ∀ a b, R a b → p a = p b) (unseen : ∀ c, further c → p c = false) :
    Spread (Marked R) (fun x => further x.1 ∧ x.2 = false) (opens ·.1) free
      (as.zip (markFirst p as)) (bs.zip (markFirst p bs)) := by
  induction spread with
  | nil => exact .nil
  | @keep free a b as bs ab rest ih =>
    rw [markFirst, markFirst, ← alike a b ab]
    split
    · refine .keep ⟨ab, rfl⟩ ?_
      exact rest.zip_map (f := fun _ => false) (P := (· = false)) (fun _ _ _ => rfl) fun _ _ => rfl
    · exact .keep ⟨ab, rfl⟩ ih
  | @insert c as bs isFurther _ ih =>
    have marks : markFirst p (c :: bs) = false :: markFirst p bs := by
      rw [markFirst, unseen c isFurther, if_neg Bool.false_ne_true]
    rw [marks]
    exact .insert ⟨isFurther, rfl⟩ ih

/-- In a closed list the first entry that opens it is the first one in both lists. -/
theorem zip_markFirst_opens (spread : Spread R further opens false as bs)
    (alike : ∀ a b, R a b → opens a = opens b) :
    Spread (Marked R) (fun x => further x.1 ∧ x.2 = false) (opens ·.1) false
      (as.zip (markFirst opens as)) (bs.zip (markFirst opens bs)) := by
  generalize closed : false = free at spread
  induction spread with
  | nil => exact .nil
  | @keep free a b as bs ab rest ih =>
    subst closed
    rw [markFirst, markFirst, ← alike a b ab]
    split
    · refine .keep ⟨ab, rfl⟩ ?_
      exact rest.zip_map (f := fun _ => false) (P := (· = false)) (fun _ _ _ => rfl) fun _ _ => rfl
    · rename_i closed
      rw [Bool.not_eq_true] at closed
      rw [closed] at ih
      refine .keep ⟨ab, rfl⟩ ?_
      rw [show (false || opens (a, false).1) = false from closed]
      exact ih rfl
  | insert => cases closed

end Spread

/-- A node apart from where it stands in the source and whether it is faulty. -/
def Node.unplaced (n : Node) : Node :=
  { n with faulty := false, hasFault := false, start := 0, stop := 0 }

theorem Node.congr_of_unplaced {β : Type} {n n' : Node} (same : n.unplaced = n'.unplaced)
    (q : Node → β) (blind : ∀ n : Node, q n.unplaced = q n) : q n = q n' :=
  (blind n).symm.trans ((congrArg q same).trans (blind n'))

theorem Node.kind_of_unplaced {n n' : Node} (same : n.unplaced = n'.unplaced) : n.kind = n'.kind :=
  Node.congr_of_unplaced same Node.kind fun _ => rfl

namespace Tree

/-- A comment that can stand between other nodes: a named leaf without a field. -/
inductive IsRemark : SyntaxTree → Prop
  | leaf {n : Node} (kind : n.kind = .comment) (named : n.named = true) (field : n.field = none) :
      IsRemark (node n [])

/-- A tree with remarks put between the children of its nodes. In front of the first named child of a
node they stand only if `before` allows it for the node and its children. -/
inductive Commented (before : Node → List SyntaxTree → Prop) : SyntaxTree → SyntaxTree → Prop
  | node {n n' : Node} {free : Bool} {children children' : List SyntaxTree}
      (same : n.unplaced = n'.unplaced) (allowed : free = true → before n children)
      (spread : Spread (Commented before) IsRemark (·.value.named) free children children') :
      Commented before (node n children) (node n' children')

variable {before : Node → List SyntaxTree → Prop} {t t' : SyntaxTree} {free : Bool}
  {children children' : List SyntaxTree}

theorem Commented.closed {n : Node}
    (spread : Spread (Commented before) IsRemark (·.value.named) false children children') :
    Commented before (Tree.node n children) (Tree.node n children') :=
  .node rfl (fun isFree => absurd isFree Bool.false_ne_true) spread

theorem Commented.opened {n : Node} (allowed : before n children)
    (spread : Spread (Commented before) IsRemark (·.value.named) true children children') :
    Commented before (Tree.node n children) (Tree.node n children') :=
  .node rfl (fun _ => allowed) spread

/-- What does not depend on the place of a node is the same in a commented tree. -/
theorem Commented.congr {β : Type} (commented : Commented before t t') (q : Node → β)
    (blind : ∀ n : Node, q n.unplaced = q n) : q t.value = q t'.value := by
  cases commented with
  | node same => exact Node.congr_of_unplaced same q blind

theorem IsRemark.unfilled (remark : IsRemark t) (field : Field) : t.value.fills field = false := by
  cases remark with
  | leaf _ _ none =>
    rw [value, Node.fills, none]
    rfl

theorem IsRemark.named (remark : IsRemark t) : t.value.named = true := by
  cases remark with
  | leaf _ named => exact named

theorem IsRemark.kind (remark : IsRemark t) : t.value.kind = .comment := by
  cases remark with
  | leaf kind => exact kind

theorem IsRemark.isName (remark : IsRemark t) : t.value.isName = false := by
  rw [Node.isName, remark.kind]

theorem IsRemark.unlisted (remark : IsRemark t) : t.value.isListedName = false := by
  rw [Node.isListedName, remark.isName, Bool.and_false]

end Tree

/-- Whether an expression tests for a class is told by the kind of the part that is its operator. -/
theorem isClassTest_of_rel {α : Type} {R : α → α → Prop} {parts parts' : List α} {node : α → Node}
    (related : Option.Rel R (parts.find? fun a => (node a).fills .operator)
      (parts'.find? fun a => (node a).fills .operator))
    (alike : ∀ a b, R a b → (node a).kind = (node b).kind) :
    isClassTest (parts.map node) = isClassTest (parts'.map node) := by
  have told (parts : List α) : isClassTest (parts.map node) =
      ((parts.find? fun a => (node a).fills .operator).map fun a => (node a).kind).any
        (Text.sameIgnoringCase ·.spelling "instanceof") := by
    have found : (parts.map node).find? (·.fills .operator) =
        (parts.find? fun a => (node a).fills .operator).map node :=
      List.find?_map
    rw [isClassTest, found]
    cases parts.find? _ <;> rfl
  rw [told, told, map_eq_of_rel related alike]

section Children

open ClassGraph.Tree

variable {before : Node → List SyntaxTree → Prop} {free : Bool} {children children' : List SyntaxTree}
  (spread : Spread (Commented before) IsRemark (·.value.named) free children children')
include spread

theorem rel_childFilling? (field : Field) :
    Option.Rel (Commented before) (childFilling? field children) (childFilling? field children') :=
  spread.find? (fun _ _ commented => commented.congr (·.fills field) fun _ => rfl)
    fun _ remark => remark.unfilled field

theorem textFilling?_spread (field : Field) :
    textFilling? field children = textFilling? field children' :=
  map_eq_of_rel (rel_childFilling? spread field) fun _ _ commented =>
    commented.congr Node.text fun _ => rfl

theorem isSome_childFilling?_spread (field : Field) :
    (childFilling? field children).isSome = (childFilling? field children').isSome := by
  have same := map_eq_of_rel (rel_childFilling? spread field) (f := fun _ => ()) fun _ _ _ => rfl
  simpa using congrArg Option.isSome same

theorem isClassTest_spread :
    isClassTest (children.map (·.value)) = isClassTest (children'.map (·.value)) :=
  isClassTest_of_rel (rel_childFilling? spread .operator)
    fun _ _ (commented : Commented before _ _) => commented.congr Node.kind fun _ => rfl

/-- The class that the first extends clause names first. -/
theorem parentNamed_spread (s : Scope) : s.parentNamed children = s.parentNamed children' := by
  have clauses := spread.find? (p := fun child => child.value.named &&
      child.value.kind == .clause .parents)
    (fun _ _ commented =>
      commented.congr (fun n => n.named && n.kind == .clause .parents) fun _ => rfl)
    (fun _ remark => by rw [remark.kind]; simp)
  refine bind_eq_of_rel clauses fun clause clause' commented => ?_
  cases commented with
  | node _ _ inner =>
    have words := inner.find? (p := (·.value.isListedName))
      (fun _ _ commented => commented.congr Node.isListedName fun _ => rfl)
      (fun _ remark => remark.unlisted)
    exact bind_eq_of_rel words fun _ _ commented =>
      commented.congr (fun n => (s.meaning n.text).bind Referent.name?) fun _ => rfl

end Children

section Imports

open ClassGraph.Tree

variable {before : Node → List SyntaxTree → Prop}

theorem importOfClause_commented {t t' : SyntaxTree} (commented : Commented before t t')
    (groupName : String) : importOfClause groupName t = importOfClause groupName t' := by
  cases commented with
  | @node n n' _ children children' same _ inner =>
    have kind : n.kind = n'.kind := Node.kind_of_unplaced same
    have targets := (inner.zip_markFirst (p := (·.value.fills .shortName))
      (fun _ _ commented => commented.congr (·.fills .shortName) fun _ => rfl)
      (fun _ remark => remark.unfilled .shortName)).find?
      (p := fun x => isImportTarget x.1.value && !x.2)
      (fun x y marked => by
        rw [marked.1.congr isImportTarget fun _ => rfl, marked.2])
      (fun x remark => by
        rw [isImportTarget, remark.1.kind]
        simp)
    rw [importOfClause, importOfClause, kind, isSome_childFilling?_spread inner,
      textFilling?_spread inner]
    split
    · rfl
    · refine bind_eq_of_rel targets ?_
      rintro ⟨target, _⟩ ⟨target', _⟩ marked
      have text : target.value.text = target'.value.text := marked.1.congr Node.text fun _ => rfl
      simp only [text]

theorem importOfClause_remark {t : SyntaxTree} (remark : IsRemark t) (groupName : String) :
    importOfClause groupName t = none := by
  cases remark with
  | leaf kind =>
    rw [importOfClause, kind]
    rfl

theorem importsOfChildren_spread {free : Bool} {children children' : List SyntaxTree}
    (spread : Spread (Commented before) IsRemark (·.value.named) free children children')
    (groupName : String) :
    importsOfChildren groupName children = importsOfChildren groupName children' := by
  induction spread generalizing groupName with
  | nil => rfl
  | @keep free child child' rest rest' commented _ ih =>
    have named := commented.congr Node.named fun _ => rfl
    have kind := commented.congr Node.kind fun _ => rfl
    have text := commented.congr Node.text fun _ => rfl
    have clause := importOfClause_commented commented ""
    have group : (child.children.filter (·.value.named)).filterMap (importOfClause groupName) =
        (child'.children.filter (·.value.named)).filterMap (importOfClause groupName) := by
      cases commented with
      | node _ _ inner =>
        rw [List.filterMap_filter, List.filterMap_filter]
        refine inner.filterMap_eq ?_ ?_
        · intro a b commented
          rw [commented.congr Node.named fun _ => rfl, importOfClause_commented commented]
        · intro c remark
          rw [importOfClause_remark remark]
          exact ite_self none
    simp only [importsOfChildren, named, kind, text, clause, group, ih]
  | @insert c children rest remark _ ih =>
    rw [importsOfChildren.eq_def _ (c :: rest)]
    simp only [remark.named, remark.kind]
    exact ih groupName

theorem importsOf_spread {free : Bool} {children children' : List SyntaxTree}
    (spread : Spread (Commented before) IsRemark (·.value.named) free children children') :
    importsOf children = importsOf children' := by
  rw [importsOf, importsOf, isSome_childFilling?_spread spread, importsOfChildren_spread spread]

end Imports

namespace Scope

open ClassGraph.Tree

variable {before : Node → List SyntaxTree → Prop} {n n' : Node} {free : Bool}
  {children children' : List SyntaxTree} (s : Scope) (same : n.unplaced = n'.unplaced)
  (spread : Spread (Commented before) IsRemark (·.value.named) free children children')
include same spread

theorem declared_spread : s.declared n children = s.declared n' children' := by
  rw [declared, declared, Node.kind_of_unplaced same,
    textFilling?_spread spread]

theorem enclosingInside_spread : s.enclosingInside n children = s.enclosingInside n' children' := by
  rw [enclosingInside, enclosingInside, Node.kind_of_unplaced same,
    declared_spread s same spread, parentNamed_spread spread]

theorem opensClass_spread : opensClass n children = opensClass n' children' := by
  rw [opensClass, opensClass, Node.kind_of_unplaced same,
    isSome_childFilling?_spread spread]

theorem inside_spread : s.inside n children = s.inside n' children' := by
  rw [inside, inside, Node.kind_of_unplaced same, ofNamespace, ofNamespace,
    textFilling?_spread spread, enclosingInside_spread s same spread]

theorem after_spread (last : Scope) : s.after n children last = s.after n' children' last := by
  rw [after, after, Node.kind_of_unplaced same, ofNamespace, ofNamespace,
    textFilling?_spread spread, isSome_childFilling?_spread spread, importsOf_spread spread,
    opensClass_spread same spread]

end Scope

end ClassGraph
