import Mathlib.Order.Interval.Finset.Nat
import ClassGraph.Proofs.DeclaredClasses

namespace ClassGraph

namespace Node

/-- The bytes that a node spans. -/
def bytes (n : Node) : Finset Nat :=
  Finset.Ico n.start n.stop

theorem bounds_of_subset {m n : Node} (inside : m.bytes ⊆ n.bytes) (spans : m.start < m.stop) :
    n.start ≤ m.start ∧ m.stop ≤ n.stop :=
  (Finset.Ico_subset_Ico_iff spans).mp inside

theorem stop_le_of_disjoint {m n : Node} (ordered : m.start ≤ n.start)
    (apart : Disjoint m.bytes n.bytes) (spans : n.start < n.stop) : m.stop ≤ n.start := by
  by_contra beyond
  have inFirst : n.start ∈ m.bytes := Finset.mem_Ico.mpr ⟨ordered, Nat.lt_of_not_le beyond⟩
  have inSecond : n.start ∈ n.bytes := Finset.mem_Ico.mpr ⟨le_rfl, spans⟩
  exact Finset.disjoint_left.mp apart inFirst inSecond

end Node

namespace Tree

/-- Every node spans the bytes of its children, and these come in order and share no byte. -/
def WellNested (t : SyntaxTree) : Prop :=
  t.Everywhere fun u => (∀ child ∈ u.children, child.value.bytes ⊆ u.value.bytes) ∧
    u.children.Pairwise fun first second =>
      first.value.start ≤ second.value.start ∧ Disjoint first.value.bytes second.value.bytes

instance (t : SyntaxTree) : Decidable t.WellNested :=
  inferInstanceAs (Decidable (t.Everywhere _))

theorem WellNested.bytes_subset {t : SyntaxTree} (nested : t.WellNested) {m : Node}
    (member : m ∈ t.preorder) : m.bytes ⊆ t.value.bytes := by
  induction t using Tree.induction with
  | node n children ih =>
    rw [preorder, preorderAll_eq_flatMap] at member
    rcases List.mem_cons.mp member with rfl | below
    · exact Finset.Subset.refl _
    · obtain ⟨child, inChildren, inChild⟩ := List.mem_flatMap.mp below
      have inside := ih child inChildren (Everywhere.child nested inChildren) inChild
      exact inside.trans ((Everywhere.here nested).1 child inChildren)

theorem value_mem_preorder {ν : Type} {t u : Tree ν} {p : Place} (here : t.at? p = some u) :
    u.value ∈ t.preorder := by
  rw [preorder_eq_filterMap]
  exact List.mem_filterMap.mpr ⟨p, mem_places.mpr (here ▸ rfl), by rw [here]; rfl⟩

section Search

variable {start stop : Nat}

/-- The nodes on the way down span the bytes that are searched for, the first one apart. -/
theorem of_mem_spanningAmong {ts : List SyntaxTree} {m : Node}
    (passed : ∀ t ∈ ts, m ∈ t.spanning start stop → m ∈ t.preorder ∧
      (m = t.value ∨ m.start ≤ start ∧ stop ≤ m.stop))
    (member : m ∈ spanningAmong start stop ts) :
    m ∈ preorderAll ts ∧ m.start ≤ start ∧ stop ≤ m.stop := by
  induction ts with
  | nil => cases member
  | cons t ts ih =>
    rw [spanningAmong] at member
    rw [preorderAll, List.mem_append]
    split at member
    · obtain ⟨later, spans⟩ := ih (fun u inRest => passed u (List.mem_cons_of_mem t inRest)) member
      exact ⟨.inr later, spans⟩
    · rename_i reaches
      split at member
      · cases member
      · rename_i begins
        simp only [Bool.or_eq_true, decide_eq_true_eq, not_or] at reaches
        obtain ⟨inTree, first | spans⟩ := passed t List.mem_cons_self member
        · exact ⟨.inl inTree, by rw [first]; omega⟩
        · exact ⟨.inl inTree, spans⟩

theorem of_mem_spanning {t : SyntaxTree} {m : Node} (member : m ∈ t.spanning start stop) :
    m ∈ t.preorder ∧ (m = t.value ∨ m.start ≤ start ∧ stop ≤ m.stop) := by
  induction t using Tree.induction with
  | node n children ih =>
    rw [spanning] at member
    rw [preorder, List.mem_cons]
    rcases List.mem_cons.mp member with first | below
    · exact ⟨.inl first, .inl first⟩
    · obtain ⟨inChildren, spans⟩ := of_mem_spanningAmong ih below
      exact ⟨.inr inChildren, .inr spans⟩

mutual

/-- The way down to the smallest node that spans the bytes from `start` to `stop`, with the place of
each node; the tree itself stands at `above`. -/
def spanningPlaces (start stop : Nat) (above : Place) : SyntaxTree → List (Place × Node)
  | node n children => (above, n) :: spanningPlacesAmong start stop above 0 children

def spanningPlacesAmong (start stop : Nat) (above : Place) (i : Nat) :
    List SyntaxTree → List (Place × Node)
  | [] => []
  | t :: ts =>
    if t.value.stop < stop || t.value.stop ≤ start then
      spanningPlacesAmong start stop above (i + 1) ts
    else if start < t.value.start then []
    else spanningPlaces start stop (above ++ [i]) t

end

mutual

theorem nodes_spanningPlaces (above : Place) :
    ∀ t : SyntaxTree, (t.spanningPlaces start stop above).map (·.2) = t.spanning start stop
  | node n children => by
    rw [spanningPlaces, spanning, List.map_cons, nodes_spanningPlacesAmong above 0 children]

theorem nodes_spanningPlacesAmong (above : Place) (i : Nat) : ∀ ts : List SyntaxTree,
    (spanningPlacesAmong start stop above i ts).map (·.2) = spanningAmong start stop ts
  | [] => rfl
  | t :: ts => by
    rw [spanningPlacesAmong, spanningAmong]
    split
    · exact nodes_spanningPlacesAmong above (i + 1) ts
    · split
      · rfl
      · exact nodes_spanningPlaces (above ++ [i]) t

end

/-- Among children in order the search goes to the one that spans the bytes. -/
theorem spanningPlacesAmong_eq {ts : List SyntaxTree} {k : Nat} {child : SyntaxTree}
    (here : ts[k]? = some child)
    (ordered : ts.Pairwise fun first second =>
      first.value.start ≤ second.value.start ∧ Disjoint first.value.bytes second.value.bytes)
    (spans : child.value.start ≤ start ∧ stop ≤ child.value.stop) (nonempty : start < stop)
    (above : Place) (i : Nat) :
    spanningPlacesAmong start stop above i ts =
      child.spanningPlaces start stop (above ++ [i + k]) := by
  induction ts generalizing k i with
  | nil => cases here
  | cons t ts ih =>
    obtain ⟨before, rest⟩ := List.pairwise_cons.mp ordered
    rw [spanningPlacesAmong]
    cases k with
    | zero =>
      cases here
      have reaches : ¬ (child.value.stop < stop || child.value.stop ≤ start) = true := by
        simp only [Bool.or_eq_true, decide_eq_true_eq]
        omega
      rw [if_neg reaches, if_neg (by omega), Nat.add_zero]
    | succ k =>
      -- What stands before the child ends where the child starts, if not earlier.
      obtain ⟨starts, apart⟩ := before child (List.mem_of_getElem? here)
      have ends := Node.stop_le_of_disjoint starts apart (by omega)
      have passed : (t.value.stop < stop || t.value.stop ≤ start) = true := by
        simp only [Bool.or_eq_true, decide_eq_true_eq]
        omega
      rw [if_pos passed, ih here rest (i + 1), Nat.add_assoc, Nat.add_comm 1 k]

/-- The way down leads through every node that spans the bytes. -/
theorem exists_spanningPlaces {t u : SyntaxTree} (nested : t.WellNested) {p : Place}
    (here : t.at? p = some u) (spans : u.value.start ≤ start ∧ stop ≤ u.value.stop)
    (nonempty : start < stop) (above : Place) :
    ∃ front, t.spanningPlaces start stop above =
      front ++ u.spanningPlaces start stop (above ++ p) := by
  induction p generalizing t above with
  | nil =>
    rw [at?_nil] at here
    cases here
    exact ⟨[], by rw [List.append_nil, List.nil_append]⟩
  | cons i p ih =>
    obtain ⟨n, children⟩ := t
    rw [at?_cons] at here
    obtain ⟨child, at_i, below⟩ := Option.bind_eq_some_iff.mp here
    have member := List.mem_of_getElem? at_i
    have inside : child.WellNested := Everywhere.child nested member
    have around := Node.bounds_of_subset (inside.bytes_subset (value_mem_preorder below)) (by omega)
    obtain ⟨front, way⟩ := ih inside below (above ++ [i])
    refine ⟨(above, n) :: front, ?_⟩
    rw [spanningPlaces, spanningPlacesAmong_eq at_i (Everywhere.here nested).2 (by omega) nonempty,
      Nat.zero_add, way, List.append_assoc]
    rfl

end Search

/-- Below a node, the way down to its bytes leads only through nodes that span the same bytes. -/
theorem WellNested.span_below {t : SyntaxTree} (nested : t.WellNested)
    (nonempty : t.value.start < t.value.stop) {m : Node}
    (member : m ∈ spanningAmong t.value.start t.value.stop t.children) :
    m ∈ preorderAll t.children ∧ m.start = t.value.start ∧ m.stop = t.value.stop := by
  obtain ⟨below, spans⟩ := of_mem_spanningAmong (fun _ _ => of_mem_spanning) member
  have inTree : m ∈ t.preorder := by
    obtain ⟨n, children⟩ := t
    exact List.mem_cons_of_mem n below
  have inside := Node.bounds_of_subset (nested.bytes_subset inTree) (by omega)
  exact ⟨below, by omega, by omega⟩

end Tree

namespace Declaration

/-- The climb of a declaration over a list whose entries have nodes. -/
def climbBy {α : Type} (d : Declaration) (node : α → Node) : List α → Option α
  | [] => none
  | a :: above =>
    if (node a).kind = .declaration d.form then some a
    else match above.head? with
      | none => none
      | some parent =>
        if (node parent).start = d.start ∧ (node parent).stop = d.stop then climbBy d node above
        else none

/-- The climb sees nothing but the nodes. -/
theorem climb_map {α : Type} (d : Declaration) (node : α → Node) (l : List α) :
    d.climb (l.map node) = (d.climbBy node l).map node := by
  induction l with
  | nil => rfl
  | cons a above ih =>
    rw [List.map_cons, climb, climbBy, List.head?_map]
    split
    · rfl
    · cases above.head? with
      | none => rfl
      | some parent =>
        simp only [Option.map_some]
        split
        · exact ih
        · rfl

/-- A climb passes the nodes of other kinds that span the bytes of the declaration, and stops at the
first node of its kind. -/
theorem climbBy_passing {α : Type} {d : Declaration} {node : α → Node} {below above : List α} {a : α}
    (others : ∀ b ∈ below, (node b).kind ≠ .declaration d.form)
    (spans : ∀ b ∈ below, (node b).start = d.start ∧ (node b).stop = d.stop)
    (kind : (node a).kind = .declaration d.form)
    (own : (node a).start = d.start ∧ (node a).stop = d.stop) :
    d.climbBy node (below ++ a :: above) = some a := by
  induction below with
  | nil => rw [List.nil_append, climbBy, if_pos kind]
  | cons b below ih =>
    have higher := ih (fun c member => others c (List.mem_cons_of_mem b member))
      fun c member => spans c (List.mem_cons_of_mem b member)
    rw [List.cons_append, climbBy, if_neg (others b List.mem_cons_self)]
    cases below with
    | nil => simpa only [List.nil_append, List.head?_cons, if_pos own] using higher
    | cons c below =>
      have next := spans c (List.mem_cons_of_mem b List.mem_cons_self)
      simpa only [List.cons_append, List.head?_cons, if_pos next] using higher

/-- What a declaration finds in its source: a node, and the place where it stands. -/
def found? (d : Declaration) : Option (Place × Node) :=
  d.climbBy (·.2) (d.source.tree.spanningPlaces d.start d.stop []).reverse

theorem node?_eq_found? (d : Declaration) : d.node? = d.found?.map (·.2) := by
  rw [node?, found?, ← climb_map, List.map_reverse, Tree.nodes_spanningPlaces]

/-- A declaration has the form and the bytes of its node. -/
theorem span_of_ofNode? {source : SourceFile} {n : ResolvedNode} {children : List ResolvedTree}
    {d : Declaration} (made : ofNode? source n children = some d) :
    n.kind = .declaration d.form ∧ d.start = n.start ∧ d.stop = n.stop ∧ d.source = source := by
  unfold ofNode? at made
  split at made
  · rename_i form name kind declares
    cases made
    exact ⟨kind, rfl, rfl, rfl⟩
  · cases made

/-- A declaration with the form and the bytes of a node finds it, if no node below has both. -/
theorem found?_eq {d : Declaration} (nested : d.source.tree.WellNested) {p : Place} {u : SyntaxTree}
    (here : d.source.tree.at? p = some u) (kind : u.value.kind = .declaration d.form)
    (span : u.value.start = d.start ∧ u.value.stop = d.stop) (nonempty : d.start < d.stop)
    (lowest : ∀ m ∈ Tree.preorderAll u.children, m.kind = u.value.kind →
      ¬ (m.start = u.value.start ∧ m.stop = u.value.stop)) :
    d.found? = some (p, u.value) := by
  have spans : u.value.start ≤ d.start ∧ d.stop ≤ u.value.stop := by omega
  obtain ⟨front, way⟩ := Tree.exists_spanningPlaces nested here spans nonempty []
  have inside : u.WellNested := Tree.Everywhere.below nested here
  obtain ⟨n, children⟩ := u
  rw [List.nil_append, Tree.spanningPlaces] at way
  have passed : ∀ entry ∈ (Tree.spanningPlacesAmong d.start d.stop p 0 children).reverse,
      entry.2 ∈ Tree.preorderAll children ∧ entry.2.start = d.start ∧ entry.2.stop = d.stop := by
    intro entry member
    have inWay : entry.2 ∈ Tree.spanningAmong d.start d.stop children := by
      rw [← Tree.nodes_spanningPlacesAmong p 0 children]
      exact List.mem_map_of_mem (List.mem_reverse.mp member)
    rw [← span.1, ← span.2] at inWay nonempty ⊢
    exact inside.span_below nonempty inWay
  rw [found?, way, List.reverse_append, List.reverse_cons, List.append_assoc]
  -- The nodes below have the bytes of the declaration, and so none of them can have its kind.
  refine climbBy_passing ?_ (fun entry member => (passed entry member).2) kind span
  intro entry member same
  obtain ⟨below, sameSpan⟩ := passed entry member
  rw [← span.1, ← span.2] at sameSpan
  exact lowest entry.2 below (same.trans kind.symm) sameSpan

end Declaration

/-- The declaration that the node at a place makes, if it makes one. -/
def SourceFile.declarationAt? (source : SourceFile) (p : Place) : Option Declaration :=
  (source.tree.resolve.at? p).bind fun u => Declaration.ofNode? source u.value u.children

/-- The declarations of a source are those that its nodes make, in preorder. If the nodes are nested by
the bytes they span, a declaration finds the very node that makes it, as long as this spans a byte and
no node below has its kind and its bytes. -/
theorem SourceFile.declarations_find_nodes (source : SourceFile) (nested : source.tree.WellNested) :
    source.declarations = source.tree.resolve.places.filterMap source.declarationAt? ∧
    ∀ p u d, source.tree.at? p = some u → source.declarationAt? p = some d →
      u.value.bytes.Nonempty →
      (∀ m ∈ Tree.preorderAll u.children, m.kind = u.value.kind →
        ¬ (m.start = u.value.start ∧ m.stop = u.value.stop)) →
      d.found? = some (p, u.value) ∧ d.node? = some u.value := by
  refine ⟨Tree.declarations_eq_filterMap source source.tree.resolve, ?_⟩
  intro p u d here made nonempty lowest
  obtain ⟨resolved, place, made⟩ := Option.bind_eq_some_iff.mp made
  obtain ⟨kind, start, stop, rfl⟩ := Declaration.span_of_ofNode? made
  obtain ⟨u', s, mark, here', rfl⟩ := Tree.at?_resolve place
  cases Option.some.inj (here.symm.trans here')
  rw [Tree.toNode_resolveMarked] at kind start stop
  have found : d.found? = some (p, u.value) := by
    refine Declaration.found?_eq nested here kind ⟨start.symm, stop.symm⟩ ?_ lowest
    rw [start, stop]
    exact Finset.nonempty_Ico.mp nonempty
  exact ⟨found, by rw [d.node?_eq_found?, found]; rfl⟩

namespace Tree

/-- A class around whose node and in whose node others span the same bytes: a statement and an unnamed
class above, a body and an interface below. Nodes without bytes stand in front of them. -/
def sampleSpans : SyntaxTree :=
  .node { kind := .other "program", stop := 40 }
    [.node { kind := .other "php_tag", stop := 5 } [],
     .node { kind := .other "text", start := 6, stop := 6 } [],
     .node { kind := .other "statement", start := 6, stop := 40 }
       [.node { kind := .declaration .plain, start := 6, stop := 40 }
         [.node { kind := .comment, start := 6, stop := 6 } [],
          .node { kind := .declaration .plain, start := 6, stop := 40 }
            [.node { kind := .name .simple, field := some .name, start := 6, stop := 6, text := "A" } [],
             .node { kind := .other "declaration_list", field := some .body, start := 6, stop := 40 }
               [.node { kind := .declaration .interface, start := 6, stop := 40 } []]]]]]

end Tree

theorem SourceFile.declarations_find_nodes_sampleSpans :
    let source : SourceFile := ⟨⟨"A.php"⟩, ⟨#[]⟩, Tree.sampleSpans⟩
    let own : Node := { kind := .declaration .plain, start := 6, stop := 40 }
    source.tree.WellNested ∧ source.declarations.map (·.name) = ["A"] ∧
      ∃ d, source.declarationAt? [2, 0, 1] = some d ∧
        d.found? = some ([2, 0, 1], own) ∧ d.node? = some own := by
  intro source own
  have nested : Tree.sampleSpans.WellNested := by decide +kernel
  obtain ⟨-, finds⟩ := source.declarations_find_nodes nested
  have made : (source.declarationAt? [2, 0, 1]).isSome := by decide +kernel
  obtain ⟨d, made⟩ := Option.isSome_iff_exists.mp made
  exact ⟨nested, by decide +kernel, d, made,
    finds [2, 0, 1] _ d rfl made (by decide +kernel) (by decide +kernel)⟩

end ClassGraph
