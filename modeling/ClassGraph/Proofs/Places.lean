import Mathlib.Data.List.Infix
import Mathlib.Data.List.Nodup
import ClassGraph.Syntax.Tree

namespace ClassGraph

/-- The way from the root of a tree down to a node. -/
abbrev Place := List Nat

namespace Tree

variable {ν : Type}

@[simp] theorem value_node (v : ν) (children : List (Tree ν)) : (node v children).value = v :=
  rfl

@[simp] theorem children_node (v : ν) (children : List (Tree ν)) :
    (node v children).children = children :=
  rfl

@[elab_as_elim]
theorem induction {motive : Tree ν → Prop}
    (node : ∀ value children, (∀ child ∈ children, motive child) → motive (.node value children))
    (t : Tree ν) : motive t := by
  refine @Tree.rec ν motive (fun ts => ∀ child ∈ ts, motive child) node ?_ ?_ t
  · intro child member
    cases member
  · intro first rest ofFirst ofRest child member
    rcases List.mem_cons.mp member with rfl | member
    · exact ofFirst
    · exact ofRest child member

theorem preorderAll_eq_flatMap (ts : List (Tree ν)) : preorderAll ts = ts.flatMap preorder := by
  induction ts with
  | nil => rfl
  | cons t ts ih => rw [preorderAll, ih, List.flatMap_cons]

/-- The subtree at a place. -/
def at? : Tree ν → Place → Option (Tree ν)
  | t, [] => some t
  | t, i :: p => t.children[i]?.bind (·.at? p)

@[simp] theorem at?_nil (t : Tree ν) : t.at? [] = some t := by
  cases t; rfl

@[simp] theorem at?_cons (value : ν) (children : List (Tree ν)) (i : Nat) (p : Place) :
    (node value children).at? (i :: p) = children[i]?.bind (·.at? p) :=
  rfl

theorem at?_singleton (t : Tree ν) (i : Nat) : t.at? [i] = t.children[i]? := by
  obtain ⟨value, children⟩ := t
  cases here : children[i]? <;> simp [here]

theorem at?_append (t : Tree ν) (p q : Place) : t.at? (p ++ q) = (t.at? p).bind (·.at? q) := by
  induction p generalizing t with
  | nil => simp
  | cons i p ih =>
    obtain ⟨value, children⟩ := t
    rw [List.cons_append, at?_cons, at?_cons, Option.bind_assoc]
    exact congrArg _ (funext fun child => ih child)

theorem at?_child {t u child : Tree ν} {p : Place} (here : t.at? p = some u)
    (member : child ∈ u.children) : ∃ i, t.at? (p ++ [i]) = some child := by
  obtain ⟨i, at_i⟩ := List.mem_iff_getElem?.mp member
  exact ⟨i, by rw [at?_append, here, Option.bind_some, at?_singleton, at_i]⟩

mutual

/-- The places of a tree in preorder. -/
def places : Tree ν → List Place
  | node _ children => [] :: placesFrom 0 children

/-- The places of several trees that are children of one node, the first with number `i`. -/
def placesFrom (i : Nat) : List (Tree ν) → List Place
  | [] => []
  | t :: ts => (places t).map (i :: ·) ++ placesFrom (i + 1) ts

end

theorem placesFrom_eq_flatMap (i : Nat) (ts : List (Tree ν)) :
    placesFrom i ts = (ts.zipIdx i).flatMap fun entry => entry.1.places.map (entry.2 :: ·) := by
  induction ts generalizing i with
  | nil => rfl
  | cons t ts ih => rw [placesFrom, ih, List.zipIdx_cons, List.flatMap_cons]

theorem places_node (value : ν) (children : List (Tree ν)) :
    (node value children).places =
      [] :: children.zipIdx.flatMap fun entry => entry.1.places.map (entry.2 :: ·) := by
  rw [places, placesFrom_eq_flatMap]

theorem cons_mem_places {value : ν} {children : List (Tree ν)} {i : Nat} {p : Place} :
    i :: p ∈ (node value children).places ↔ ∃ child, children[i]? = some child ∧ p ∈ child.places := by
  simp only [places_node, List.mem_cons, reduceCtorEq, false_or, List.mem_flatMap, List.mem_map,
    List.cons.injEq, Prod.exists, List.mk_mem_zipIdx_iff_getElem?]
  constructor
  · rintro ⟨child, j, at_j, q, member, rfl, rfl⟩
    exact ⟨child, at_j, member⟩
  · rintro ⟨child, at_i, member⟩
    exact ⟨child, i, at_i, p, member, rfl, rfl⟩

theorem mem_places {t : Tree ν} {p : Place} : p ∈ t.places ↔ (t.at? p).isSome := by
  induction p generalizing t with
  | nil =>
    obtain ⟨value, children⟩ := t
    simp [places_node]
  | cons i p ih =>
    obtain ⟨value, children⟩ := t
    rw [cons_mem_places, at?_cons]
    cases at_i : children[i]? with
    | none => simp
    | some child => simp [ih]

/-- A property holds of a tree and of every tree inside it. -/
def Everywhere (P : Tree ν → Prop) (t : Tree ν) : Prop :=
  ∀ p ∈ t.places, ∀ u ∈ t.at? p, P u

instance (P : Tree ν → Prop) [DecidablePred P] (t : Tree ν) : Decidable (t.Everywhere P) :=
  inferInstanceAs (Decidable (∀ p ∈ t.places, ∀ u ∈ t.at? p, P u))

namespace Everywhere

variable {P : Tree ν → Prop}

theorem of_at? {t u : Tree ν} (holds : t.Everywhere P) {p : Place} (here : t.at? p = some u) : P u :=
  holds p (mem_places.mpr (here ▸ rfl)) u here

theorem here {t : Tree ν} (holds : t.Everywhere P) : P t :=
  holds.of_at? (at?_nil t)

theorem below {t u : Tree ν} (holds : t.Everywhere P) {p : Place} (here : t.at? p = some u) :
    u.Everywhere P := by
  intro q _ v inside
  refine holds.of_at? (p := p ++ q) ?_
  rw [at?_append, here, Option.bind_some]
  exact inside

theorem child {t child : Tree ν} (holds : t.Everywhere P) (member : child ∈ t.children) :
    child.Everywhere P := by
  obtain ⟨i, here⟩ := at?_child (at?_nil t) member
  exact holds.below here

end Everywhere

theorem nodup_places (t : Tree ν) : t.places.Nodup := by
  induction t using Tree.induction with
  | node value children ih =>
    rw [places_node, List.nodup_cons, List.nodup_flatMap]
    refine ⟨by simp, ?_, ?_⟩
    · intro entry member
      exact (ih entry.1 (List.fst_mem_of_mem_zipIdx member)).map (List.cons_injective)
    · have distinct : (children.zipIdx.map Prod.snd).Nodup := by
        rw [List.zipIdx_map_snd]
        exact List.nodup_range'
      refine (List.pairwise_map.mp distinct).imp ?_
      intro first second different p inFirst inSecond
      obtain ⟨q, -, rfl⟩ := List.mem_map.mp inFirst
      obtain ⟨q', -, same⟩ := List.mem_map.mp inSecond
      exact different (List.cons.inj same).1.symm

theorem flatMap_zipIdx_fst {α : Type} (f : Tree ν → List α) (children : List (Tree ν)) :
    (children.zipIdx.flatMap fun entry => f entry.1) = children.flatMap f := by
  rw [← List.flatMap_map, List.zipIdx_map_fst]

theorem flatMap_zipIdx_single {α : Type} {f : Tree ν × Nat → List α} {children : List (Tree ν)}
    {start i : Nat} {child : Tree ν} (here : children[i]? = some child)
    (others : ∀ entry ∈ children.zipIdx start, entry.2 ≠ start + i → f entry = []) :
    (children.zipIdx start).flatMap f = f (child, start + i) := by
  induction children generalizing start i with
  | nil => cases here
  | cons first rest ih =>
    rw [List.zipIdx_cons] at others ⊢
    rw [List.flatMap_cons]
    cases i with
    | zero =>
      cases here
      have nothing : (rest.zipIdx (start + 1)).flatMap f = [] := by
        refine List.flatMap_eq_nil_iff.mpr fun entry member => ?_
        have later := List.le_snd_of_mem_zipIdx member
        exact others entry (List.mem_cons_of_mem _ member) (by omega)
      rw [nothing, List.append_nil, Nat.add_zero]
    | succ i =>
      have nothing := others (first, start) List.mem_cons_self (by simp)
      have found := ih here fun entry member different =>
        others entry (List.mem_cons_of_mem _ member) (by omega)
      rw [nothing, List.nil_append, found, Nat.add_assoc, Nat.add_comm 1 i]

/-- What is read off the nodes of a tree in preorder. -/
theorem filterMap_places_node {β : Type} (g : Tree ν → Option β) (value : ν)
    (children : List (Tree ν)) :
    ((node value children).places.filterMap fun p => ((node value children).at? p).bind g) =
      (g (node value children)).toList ++
        children.flatMap fun child => child.places.filterMap fun p => (child.at? p).bind g := by
  have below : ∀ entry ∈ children.zipIdx, (entry.1.places.map (entry.2 :: ·)).filterMap
      (fun p => ((node value children).at? p).bind g) =
        entry.1.places.filterMap fun p => (entry.1.at? p).bind g := by
    intro entry member
    have place := List.mem_zipIdx_iff_getElem?.mp member
    simp only [List.filterMap_map, Function.comp_def, at?_cons, place, Option.bind_some]
  rw [places_node, List.filterMap_cons, List.filterMap_flatMap, List.flatMap_congr below,
    flatMap_zipIdx_fst fun child => child.places.filterMap fun p => (child.at? p).bind g, at?_nil,
    Option.bind_some]
  cases g (node value children) <;> rfl

/-- The places are listed in the order of the values. -/
theorem preorder_eq_filterMap (t : Tree ν) :
    t.preorder = t.places.filterMap fun p => (t.at? p).bind fun u => some u.value := by
  induction t using Tree.induction with
  | node value children ih =>
    rw [filterMap_places_node, preorder, preorderAll_eq_flatMap, List.flatMap_congr ih]
    rfl

end Tree

end ClassGraph
