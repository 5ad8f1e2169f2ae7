import ClassGraph.Proofs.Places
import ClassGraph.Syntax.Resolved

namespace ClassGraph.Tree

/-- The class that the node at a place declares. -/
def declaredAt (t : ResolvedTree) (p : Place) : Option String :=
  (t.at? p).bind (·.value.declares)

/-- The places of the nodes that declare classes, in preorder, with the names they declare. -/
def declaring (t : ResolvedTree) : List (Place × String) :=
  t.places.filterMap fun p => (t.declaredAt p).map (p, ·)

/-- The nearest place that declares a class, from a place upwards. -/
def owner? (t : ResolvedTree) (p : Place) : Option Place :=
  p.inits.reverse.find? fun q => (t.declaredAt q).isSome

/-- The places with one owner, or with none, in preorder. -/
def owned (t : ResolvedTree) (owner : Option Place) : List Place :=
  t.places.filter fun p => decide (t.owner? p = owner)

/-- What `f` reads off the nodes with one owner, or with none, in preorder. -/
def gather {α : Type} (f : ResolvedTree → List α) (t : ResolvedTree) (owner : Option Place) :
    List α :=
  (t.owned owner).flatMap fun p => (t.at? p).elim [] f

/-- A place that declares nothing has the owner of the place above it. -/
theorem owner?_concat (t : ResolvedTree) (p : Place) (i : Nat) :
    t.owner? (p ++ [i]) =
      if (t.declaredAt (p ++ [i])).isSome then some (p ++ [i]) else t.owner? p := by
  have inits : (p ++ [i]).inits.reverse = (p ++ [i]) :: p.inits.reverse := by
    simp [List.inits_append]
  rw [owner?, inits, List.find?_cons]
  split <;> rename_i declared
  · rw [if_pos declared]
  · rw [if_neg (by simp [declared])]
    rfl

theorem owner?_append {t : ResolvedTree} {p below : Place}
    (undeclared : ∀ q, q <+: below → q ≠ [] → t.declaredAt (p ++ q) = none) :
    t.owner? (p ++ below) = t.owner? p := by
  induction below using List.reverseRecOn with
  | nil => rw [List.append_nil]
  | append_singleton q i ih =>
    have last := undeclared (q ++ [i]) List.prefix_rfl (by simp)
    rw [← List.append_assoc] at last ⊢
    rw [owner?_concat, last, if_neg (by simp)]
    exact ih fun q' shorter => undeclared q' (shorter.trans (List.prefix_append q [i]))

section Node

variable (n : ResolvedNode) (children : List ResolvedTree)

@[simp] theorem declaredAt_nil : (node n children).declaredAt [] = n.declares :=
  rfl

@[simp] theorem declaredAt_cons (i : Nat) (p : Place) :
    (node n children).declaredAt (i :: p) = children[i]?.bind (·.declaredAt p) := by
  rw [declaredAt, at?_cons, Option.bind_assoc]
  rfl

theorem owner?_nil :
    (node n children).owner? [] = if n.declares.isSome then some [] else none := by
  cases declares : n.declares <;> simp [owner?, declares]

/-- Below a node, the owner is found inside the child, or else it is the node's own. -/
theorem owner?_cons (i : Nat) (p : Place) :
    (node n children).owner? (i :: p) =
      ((children[i]?.bind (·.owner? p)).map (i :: ·)).or ((node n children).owner? []) := by
  have split : (i :: p).inits.reverse = p.inits.reverse.map (i :: ·) ++ [[]] := by
    rw [List.inits_cons, List.reverse_cons, List.map_reverse]
  rw [owner?, split, List.find?_append, List.find?_map, Function.comp_def]
  cases child : children[i]? with
  | none =>
    have nothing : p.inits.reverse.find? (fun _ => false) = none :=
      List.find?_eq_none.mpr fun _ _ => Bool.false_ne_true
    simp [child, owner?, nothing]
  | some c => simp [child, owner?]

theorem declaring_node : (node n children).declaring =
    (n.declares.map ([], ·)).toList ++ children.zipIdx.flatMap fun entry =>
      entry.1.declaring.map fun declared => (entry.2 :: declared.1, declared.2) := by
  have below : ∀ entry ∈ children.zipIdx, (entry.1.places.map (entry.2 :: ·)).filterMap
      (fun p => ((node n children).declaredAt p).map (p, ·)) =
        entry.1.declaring.map fun declared => (entry.2 :: declared.1, declared.2) := by
    intro entry member
    have place := List.mem_zipIdx_iff_getElem?.mp member
    simp [declaring, List.filterMap_map, List.map_filterMap, Function.comp_def, place]
  rw [declaring, places_node, List.filterMap_cons, List.filterMap_flatMap, List.flatMap_congr below]
  cases declares : n.declares <;> simp [declares]

/-- Gathering at a node: its own part if it is owned, then the parts of the children. -/
theorem gather_node {α : Type} (f : ResolvedTree → List α) (owner : Option Place) :
    (node n children).gather f owner =
      (if (node n children).owner? [] = owner then f (node n children) else []) ++
        children.zipIdx.flatMap fun entry =>
          (entry.1.places.filter fun p =>
            decide ((node n children).owner? (entry.2 :: p) = owner)).flatMap
              fun p => (entry.1.at? p).elim [] f := by
  have below : ∀ entry ∈ children.zipIdx, ((entry.1.places.map (entry.2 :: ·)).filter
      fun p => decide ((node n children).owner? p = owner)).flatMap
        (fun p => ((node n children).at? p).elim [] f) =
          (entry.1.places.filter fun p =>
            decide ((node n children).owner? (entry.2 :: p) = owner)).flatMap
              fun p => (entry.1.at? p).elim [] f := by
    intro entry member
    have place := List.mem_zipIdx_iff_getElem?.mp member
    simp only [List.filter_map, List.flatMap_map, Function.comp_def, at?_cons, place,
      Option.bind_some]
  rw [gather, owned, places_node, List.filter_cons, List.filter_flatMap]
  split
  · rename_i own
    rw [if_pos (by simpa using own), List.flatMap_cons, List.flatMap_assoc, List.flatMap_congr below]
    rfl
  · rename_i other
    rw [if_neg (by simpa using other), List.flatMap_assoc, List.flatMap_congr below]
    rfl

variable {n children}

/-- The part of a child, where the owner below the node corresponds to one inside the child. -/
theorem gather_inside {α : Type} (f : ResolvedTree → List α) {owner inner : Option Place} {i : Nat}
    {child : ResolvedTree}
    (same : ∀ p, (node n children).owner? (i :: p) = owner ↔ child.owner? p = inner) :
    ((child.places.filter fun p => decide ((node n children).owner? (i :: p) = owner)).flatMap
      fun p => (child.at? p).elim [] f) = child.gather f inner := by
  simp only [same, gather, owned]

theorem gather_none_of_declares {α : Type} (f : ResolvedTree → List α) {name : String}
    (declares : n.declares = some name) : (node n children).gather f none = [] := by
  simp [gather_node, owner?_cons, owner?_nil, declares]

theorem gather_none {α : Type} (f : ResolvedTree → List α) (undeclared : n.declares = none) :
    (node n children).gather f none =
      f (node n children) ++ children.flatMap (gather f · none) := by
  have below : ∀ entry ∈ children.zipIdx, (entry.1.places.filter fun p =>
      decide ((node n children).owner? (entry.2 :: p) = none)).flatMap
        (fun p => (entry.1.at? p).elim [] f) = entry.1.gather f none := by
    intro entry member
    refine gather_inside f fun p => ?_
    rw [owner?_cons, List.mem_zipIdx_iff_getElem?.mp member, owner?_nil, undeclared]
    simp
  rw [gather_node, List.flatMap_congr below, flatMap_zipIdx_fst fun child => gather f child none,
    owner?_nil, undeclared]
  rfl

/-- A node that declares a class owns itself and what is unowned inside its children. -/
theorem gather_self {α : Type} (f : ResolvedTree → List α) {name : String}
    (declares : n.declares = some name) : (node n children).gather f (some []) =
      f (node n children) ++ children.flatMap (gather f · none) := by
  have below : ∀ entry ∈ children.zipIdx, (entry.1.places.filter fun p =>
      decide ((node n children).owner? (entry.2 :: p) = some [])).flatMap
        (fun p => (entry.1.at? p).elim [] f) = entry.1.gather f none := by
    intro entry member
    refine gather_inside f fun p => ?_
    rw [owner?_cons, List.mem_zipIdx_iff_getElem?.mp member, owner?_nil, declares]
    cases inner : entry.1.owner? p <;> simp [inner]
  rw [gather_node, List.flatMap_congr below, flatMap_zipIdx_fst fun child => gather f child none,
    owner?_nil, declares]
  rfl

/-- What a class inside a child owns lies inside that child. -/
theorem gather_child {α : Type} (f : ResolvedTree → List α) {i : Nat} {child : ResolvedTree}
    (here : children[i]? = some child) (q : Place) :
    (node n children).gather f (some (i :: q)) = child.gather f (some q) := by
  have own : ¬(node n children).owner? [] = some (i :: q) := by
    rw [owner?_nil]
    split <;> simp
  have inside : ∀ j inner p, children[j]? = some inner →
      ((node n children).owner? (j :: p) = some (i :: q) ↔ j = i ∧ inner.owner? p = some q) := by
    intro j inner p at_j
    rw [owner?_cons, at_j, Option.bind_some]
    cases owner : inner.owner? p with
    | none => simp [own]
    | some o => simp
  rw [gather_node, if_neg own, List.nil_append, flatMap_zipIdx_single here]
  · refine gather_inside f fun p => ?_
    rw [Nat.zero_add, inside i child p here]
    simp
  · intro entry member different
    have elsewhere : ∀ p ∈ entry.1.places,
        ¬decide ((node n children).owner? (entry.2 :: p) = some (i :: q)) = true := by
      intro p _
      rw [decide_eq_true_iff, inside _ _ _ (List.mem_zipIdx_iff_getElem?.mp member)]
      omega
    rw [List.filter_eq_nil_iff.mpr elsewhere]
    rfl

end Node

/-- A class owns the same inside its own tree as in the whole tree. -/
theorem gather_at {α : Type} (f : ResolvedTree → List α) {t u : ResolvedTree} {p : Place}
    (here : t.at? p = some u) : t.gather f (some p) = u.gather f (some []) := by
  induction p generalizing t with
  | nil =>
    rw [at?_nil] at here
    cases here
    rfl
  | cons i p ih =>
    obtain ⟨n, children⟩ := t
    obtain ⟨child, at_i, inChild⟩ := Option.bind_eq_some_iff.mp here
    exact (gather_child f at_i p).trans (ih inChild)

/-- The names that a tree declares, in preorder. -/
theorem declaring_names (t : ResolvedTree) :
    t.declaring.map (·.2) = t.preorder.filterMap (·.declares) := by
  rw [declaring, List.map_filterMap, preorder_eq_filterMap, List.filterMap_filterMap]
  refine List.filterMap_congr fun p _ => ?_
  rw [declaredAt]
  cases t.at? p with
  | none => rfl
  | some u => simp [Function.comp_def]

end ClassGraph.Tree
