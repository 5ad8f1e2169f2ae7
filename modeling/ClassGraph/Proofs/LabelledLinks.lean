import ClassGraph.Proofs.GrowingMaps

namespace ClassGraph

/-- An edge between labels; an end that is no node has none. -/
structure Arrow where
  source : Option String
  target : Option String
  kind : EdgeKind
deriving DecidableEq, Repr

namespace ClassRecord

/-- The edges of a class as arrows from its name. -/
def arrows (c : ClassRecord) : List Arrow :=
  c.edges.map fun e => ⟨some c.name, some e.target, e.kind⟩

/-- The names that a class mentions: its own, and behind it the targets of its edges. -/
def mentions (c : ClassRecord) : List String :=
  c.name :: c.edges.map (·.target)

theorem mem_mentions {c : ClassRecord} {name : String} :
    name ∈ c.mentions ↔ c.name = name ∨ ∃ e ∈ c.edges, e.target = name := by
  rw [mentions, List.mem_cons, List.mem_map]
  exact or_congr_left eq_comm

end ClassRecord

namespace Graph

/-- A link with the labels of its ends. -/
def arrow (g : Graph) (l : Link) : Arrow :=
  ⟨g.nodes[l.source]?, g.nodes[l.target]?, l.kind⟩

/-- The links of a graph, read through the labels of the nodes. -/
def arrows (g : Graph) : List Arrow :=
  g.links.map g.arrow

/-- Both ends of every link are nodes. -/
def Closed (g : Graph) : Prop :=
  ∀ l ∈ g.links, l.source < g.nodes.length ∧ l.target < g.nodes.length

/-- If every step of a fold adds arrows, the whole fold adds all of them in order. -/
theorem arrows_foldl {α : Type} {step : Graph → α → Graph} {added : α → List Arrow}
    (Kept : Graph → Prop)
    (each : ∀ g a, Kept g → Kept (step g a) ∧ (step g a).arrows = g.arrows ++ added a)
    (items : List α) {g : Graph} (kept : Kept g) :
    Kept (items.foldl step g) ∧ (items.foldl step g).arrows = g.arrows ++ items.flatMap added := by
  induction items generalizing g with
  | nil => exact ⟨kept, (List.append_nil _).symm⟩
  | cons a items ih =>
    obtain ⟨kept', arrows'⟩ := each g a kept
    obtain ⟨kept'', arrows''⟩ := ih kept'
    refine ⟨kept'', ?_⟩
    rw [List.foldl_cons, arrows'', arrows', List.append_assoc, List.flatMap_cons]

namespace Closed

variable {g g' : Graph} (closed : g.Closed)
include closed

theorem mono (same : g'.links = g.links) (grown : g.nodes <+: g'.nodes) : g'.Closed := by
  intro l member
  rw [same] at member
  obtain ⟨source, target⟩ := closed l member
  have size := grown.length_le
  exact ⟨by omega, by omega⟩

/-- A link keeps its labels. -/
theorem arrow_eq (grown : g.nodes <+: g'.nodes) {l : Link} (member : l ∈ g.links) :
    g'.arrow l = g.arrow l := by
  obtain ⟨source, target⟩ := closed l member
  obtain ⟨more, nodes⟩ := grown
  rw [arrow, arrow, ← nodes, List.getElem?_append_left source, List.getElem?_append_left target]

theorem addName (name : String) : (g.addName name).Closed ∧ (g.addName name).arrows = g.arrows := by
  have grown := (Extends.addName g name).nodes
  have same := links_addName g name
  refine ⟨closed.mono same grown, ?_⟩
  rw [arrows, arrows, same]
  exact List.map_congr_left fun l member => closed.arrow_eq grown member

theorem addEdge {source : String} (known : source ∈ g.nodes) (e : Edge) :
    (addEdge source g e).Closed ∧ source ∈ (addEdge source g e).nodes ∧
      (addEdge source g e).arrows = g.arrows ++ [⟨some source, some e.target, e.kind⟩] := by
  obtain ⟨closed', arrows'⟩ := closed.addName e.target
  have from' : source ∈ (g.addName e.target).nodes := (Extends.addName g e.target).nodes.subset known
  have to' : e.target ∈ (g.addName e.target).nodes := mem_addName g e.target
  refine ⟨?_, from', ?_⟩
  · intro l member
    rcases List.mem_append.mp member with old | new
    · exact closed' l old
    · rw [List.mem_singleton.mp new]
      exact ⟨List.idxOf_lt_length_of_mem from', List.idxOf_lt_length_of_mem to'⟩
  · rw [← arrows']
    refine List.map_append.trans (congrArg _ ?_)
    simp only [List.map_singleton, arrow, Graph.addEdge, addLink, List.getElem?_idxOf from',
      List.getElem?_idxOf to']

theorem addClass (c : ClassRecord) :
    (g.addClass c).Closed ∧ (g.addClass c).arrows = g.arrows ++ c.arrows := by
  obtain ⟨closed', arrows'⟩ := closed.addName c.name
  have each (g : Graph) (e : Edge) (kept : g.Closed ∧ c.name ∈ g.nodes) :
      ((Graph.addEdge c.name g e).Closed ∧ c.name ∈ (Graph.addEdge c.name g e).nodes) ∧
        (Graph.addEdge c.name g e).arrows = g.arrows ++ [⟨some c.name, some e.target, e.kind⟩] := by
    obtain ⟨closed, known, arrows⟩ := kept.1.addEdge kept.2 e
    exact ⟨⟨closed, known⟩, arrows⟩
  obtain ⟨⟨closed'', -⟩, arrows''⟩ := arrows_foldl _ each c.edges ⟨closed', mem_addName g c.name⟩
  rw [arrows', ← List.map_eq_flatMap] at arrows''
  exact ⟨closed'', arrows''⟩

end Closed

/-- The nodes of a graph are the names mentioned so far, in the order of their first mention. -/
structure Numbers (g : Graph) (mentioned : List String) : Prop where
  mem_iff : ∀ name, name ∈ g.nodes ↔ name ∈ mentioned
  ordered : g.nodes.Pairwise fun a b => mentioned.idxOf a < mentioned.idxOf b

namespace Numbers

variable {g : Graph} {mentioned : List String}

theorem nodup (numbers : g.Numbers mentioned) : g.nodes.Nodup :=
  numbers.ordered.imp fun {a b} (before : mentioned.idxOf a < mentioned.idxOf b) same => by
    rw [same] at before
    omega

/-- What is mentioned later does not change the order of the nodes. -/
theorem ordered_append (numbers : g.Numbers mentioned) (more : List String) :
    g.nodes.Pairwise fun a b => (mentioned ++ more).idxOf a < (mentioned ++ more).idxOf b := by
  refine numbers.ordered.imp_of_mem ?_
  intro a b isNode isNode' before
  rw [List.idxOf_append_of_mem ((numbers.mem_iff a).mp isNode),
    List.idxOf_append_of_mem ((numbers.mem_iff b).mp isNode')]
  exact before

theorem addName (numbers : g.Numbers mentioned) (name : String) :
    (g.addName name).Numbers (mentioned ++ [name]) := by
  have later := numbers.ordered_append [name]
  unfold Graph.addName
  split
  · rename_i known
    have old : name ∈ mentioned := (numbers.mem_iff name).mp (List.contains_iff_mem.mp known)
    refine ⟨fun other => ?_, later⟩
    rw [numbers.mem_iff, List.mem_append, List.mem_singleton]
    exact ⟨.inl, fun member => member.elim id fun same => same ▸ old⟩
  · rename_i unknown
    have new : name ∉ mentioned := fun old =>
      unknown (List.contains_iff_mem.mpr ((numbers.mem_iff name).mpr old))
    refine ⟨fun other => ?_, List.pairwise_append.mpr ⟨later, List.pairwise_singleton _ _, ?_⟩⟩
    · rw [Graph.addNode, List.mem_append, List.mem_append, numbers.mem_iff]
    · intro a isNode b last
      have old := (numbers.mem_iff a).mp isNode
      have place := List.idxOf_lt_length_of_mem old
      rw [List.mem_singleton.mp last, List.idxOf_append_of_mem old, List.idxOf_append_of_notMem new]
      omega

/-- If every step of a fold mentions names, the whole fold mentions all of them in order. -/
theorem foldl {α : Type} {step : Graph → α → Graph} {said : α → List String}
    (each : ∀ {g mentioned} a, Numbers g mentioned → (step g a).Numbers (mentioned ++ said a))
    (items : List α) (numbers : g.Numbers mentioned) :
    (items.foldl step g).Numbers (mentioned ++ items.flatMap said) := by
  induction items generalizing g mentioned with
  | nil =>
    rw [List.flatMap_nil, List.append_nil]
    exact numbers
  | cons a items ih =>
    rw [List.foldl_cons, List.flatMap_cons, ← List.append_assoc]
    exact ih (each a numbers)

theorem addEdge (source : String) (e : Edge) (numbers : g.Numbers mentioned) :
    (Graph.addEdge source g e).Numbers (mentioned ++ [e.target]) := by
  have withTarget := numbers.addName e.target
  exact ⟨withTarget.mem_iff, withTarget.ordered⟩

theorem addClass (c : ClassRecord) (numbers : g.Numbers mentioned) :
    (g.addClass c).Numbers (mentioned ++ c.mentions) := by
  have withName := numbers.addName c.name
  have withEdges := foldl (addEdge c.name) c.edges withName
  rw [List.append_assoc, ← List.map_eq_flatMap] at withEdges
  exact withEdges

end Numbers

end Graph

namespace CodeMap

/-- The links of the graph of a map are the edges of its classes, in order. -/
theorem arrows_graph (m : CodeMap) :
    m.graph.Closed ∧ m.graph.arrows = m.classes.flatMap (·.arrows) := by
  have empty : Graph.Closed {} := fun l member => absurd member List.not_mem_nil
  rw [graph_eq_foldl]
  exact Graph.arrows_foldl Graph.Closed (fun _ c closed => closed.addClass c) m.classes empty

theorem numbers_graph (m : CodeMap) : m.graph.Numbers (m.classes.flatMap (·.mentions)) := by
  have empty : Graph.Numbers {} [] := ⟨fun _ => Iff.rfl, .nil⟩
  rw [graph_eq_foldl]
  exact Graph.Numbers.foldl Graph.Numbers.addClass m.classes empty

/-- The graph of a map tells what the map tells. Its labels are all different; they are the names of the
classes and the targets of their edges, in the order in which they first appear when each class is
followed by its targets. Both ends of every link are nodes, and the links, read through their labels,
are the edges of all classes, in order and each as often as it is there. -/
theorem graph_faithful (m : CodeMap) :
    let mentioned := m.classes.flatMap fun c => c.name :: c.edges.map (·.target)
    m.graph.nodes.Nodup ∧
    (∀ name, name ∈ m.graph.nodes ↔
      ∃ c ∈ m.classes, c.name = name ∨ ∃ e ∈ c.edges, e.target = name) ∧
    m.graph.nodes.Pairwise (fun a b => mentioned.idxOf a < mentioned.idxOf b) ∧
    (∀ l ∈ m.graph.links, l.source < m.graph.nodes.length ∧ l.target < m.graph.nodes.length) ∧
    (m.graph.links.map fun l =>
        (m.graph.nodes[l.source]?, m.graph.nodes[l.target]?, l.kind)) =
      m.classes.flatMap fun c => c.edges.map fun e => (some c.name, some e.target, e.kind) := by
  intro mentioned
  have numbers := m.numbers_graph
  obtain ⟨closed, arrows⟩ := m.arrows_graph
  refine ⟨numbers.nodup, fun name => ?_, numbers.ordered, closed, ?_⟩
  · rw [numbers.mem_iff, List.mem_flatMap]
    simp only [ClassRecord.mem_mentions]
  · have told := congrArg (List.map fun a : Arrow => (a.source, a.target, a.kind)) arrows
    rw [Graph.arrows, List.map_map, List.map_flatMap] at told
    simp only [ClassRecord.arrows, List.map_map] at told
    exact told

/-- Two classes of one name that lead to themselves, to each other and twice to a class outside. -/
example :
    let a : ClassRecord := { name := "A", edges := [⟨"X", .typeHint, 1⟩, ⟨"A", .staticCall, 2⟩] }
    let b : ClassRecord := { name := "A", edges := [⟨"B", .inherits, 3⟩, ⟨"X", .typeHint, 4⟩] }
    (CodeMap.mk [{ path := ⟨"A.php"⟩, classes := [a, b] }]).graph =
      ⟨["A", "X", "B"],
        [⟨0, 1, .typeHint⟩, ⟨0, 0, .staticCall⟩, ⟨0, 2, .inherits⟩, ⟨0, 1, .typeHint⟩]⟩ := by
  intro a b
  rw [graph_eq_foldl]
  decide

end CodeMap

end ClassGraph
