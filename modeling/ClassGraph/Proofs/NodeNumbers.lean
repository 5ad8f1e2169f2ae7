import Mathlib.Data.List.Basic
import ClassGraph.Map.Graph

namespace ClassGraph

namespace Graph

/-- Adds a name as a node, unless it is one already. -/
def addName (g : Graph) (name : String) : Graph :=
  if g.nodes.contains name then g else g.addNode name

/-- Adds an edge from a node that is already there. -/
def addEdge (source : String) (g : Graph) (e : Edge) : Graph :=
  let g := g.addName e.target
  g.addLink ⟨g.nodes.idxOf source, g.nodes.idxOf e.target, e.kind⟩

def addClass (g : Graph) (c : ClassRecord) : Graph :=
  c.edges.foldl (addEdge c.name) (g.addName c.name)

theorem mem_addName (g : Graph) (name : String) : name ∈ (g.addName name).nodes := by
  unfold addName
  split
  · rename_i known
    exact List.contains_iff_mem.mp known
  · exact List.mem_append_right _ (List.mem_singleton.mpr rfl)

theorem prefix_addName (g : Graph) (name : String) : g.nodes <+: (g.addName name).nodes := by
  unfold addName
  split
  · exact List.prefix_refl _
  · exact List.prefix_append _ _

theorem links_addName (g : Graph) (name : String) : (g.addName name).links = g.links := by
  unfold addName
  split <;> rfl

end Graph

namespace GraphBuilder

/-- The numbers of a builder are the places of the nodes. -/
def IsNumbered (b : GraphBuilder) : Prop :=
  ∀ name, b.numbers[name]? =
    if name ∈ b.graph.nodes then some (b.graph.nodes.idxOf name) else none

theorem isNumbered_empty : IsNumbered {} := by
  intro name
  simp

theorem IsNumbered.number {b : GraphBuilder} (numbered : b.IsNumbered) (name : String) :
    (b.number name).1 = (b.graph.addName name).nodes.idxOf name ∧
      (b.number name).2.graph = b.graph.addName name ∧ (b.number name).2.IsNumbered := by
  have looked := numbered name
  rw [GraphBuilder.number, Graph.addName]
  by_cases known : name ∈ b.graph.nodes
  · rw [if_pos known] at looked
    rw [looked, if_pos (List.contains_iff_mem.mpr known)]
    exact ⟨rfl, rfl, numbered⟩
  · rw [if_neg known] at looked
    rw [looked, if_neg fun listed => known (List.contains_iff_mem.mp listed)]
    have place : (b.graph.addNode name).nodes.idxOf name = b.graph.nodes.length := by
      rw [Graph.addNode, List.idxOf_append_of_notMem known, List.idxOf_cons_self, Nat.add_zero]
    refine ⟨place.symm, rfl, fun other => ?_⟩
    change (b.numbers.insert name b.graph.nodes.length)[other]? =
      if other ∈ (b.graph.addNode name).nodes then some ((b.graph.addNode name).nodes.idxOf other)
      else none
    rw [Std.HashMap.getElem?_insert]
    by_cases same : name = other
    · subst same
      rw [if_pos (beq_self_eq_true name), place, if_pos]
      exact List.mem_append_right _ (List.mem_singleton.mpr rfl)
    · -- Every other name keeps its place, since the node is added behind the others.
      have listed : other ∈ (b.graph.addNode name).nodes ↔ other ∈ b.graph.nodes := by
        simp [Graph.addNode, Ne.symm same]
      rw [if_neg (by simpa using same), numbered other]
      by_cases isNode : other ∈ b.graph.nodes
      · rw [if_pos isNode, if_pos (listed.mpr isNode), Graph.addNode,
          List.idxOf_append_of_mem isNode]
      · rw [if_neg isNode, if_neg (mt listed.mp isNode)]

/-- An edge from the number of a node is an edge from the node. -/
theorem IsNumbered.addEdge {b : GraphBuilder} (numbered : b.IsNumbered) {source : String}
    (known : source ∈ b.graph.nodes) (e : Edge) :
    let next := GraphBuilder.addEdge (b.graph.nodes.idxOf source) b e
    next.graph = Graph.addEdge source b.graph e ∧ next.IsNumbered ∧
      source ∈ next.graph.nodes ∧ next.graph.nodes.idxOf source = b.graph.nodes.idxOf source := by
  intro next
  obtain ⟨target, graph, numbered'⟩ := numbered.number e.target
  have kept : source ∈ (b.graph.addName e.target).nodes :=
    (b.graph.prefix_addName e.target).subset known
  have place : (b.graph.addName e.target).nodes.idxOf source = b.graph.nodes.idxOf source := by
    obtain ⟨more, nodes⟩ := b.graph.prefix_addName e.target
    rw [← nodes, List.idxOf_append_of_mem known]
  have built : next.graph = Graph.addEdge source b.graph e := by
    simp only [next, GraphBuilder.addEdge, Graph.addEdge, graph, target, place]
  refine ⟨built, fun name => ?_, ?_, ?_⟩
  · exact numbered' name
  · rw [built]
    exact kept
  · rw [built]
    exact place

theorem IsNumbered.addEdges {b : GraphBuilder} (numbered : b.IsNumbered) {source : String}
    (known : source ∈ b.graph.nodes) (edges : List Edge) :
    let next := edges.foldl (GraphBuilder.addEdge (b.graph.nodes.idxOf source)) b
    next.graph = edges.foldl (Graph.addEdge source) b.graph ∧ next.IsNumbered := by
  induction edges generalizing b with
  | nil => exact ⟨rfl, numbered⟩
  | cons e edges ih =>
    obtain ⟨built, numbered', known', place⟩ := numbered.addEdge known e
    have rest := ih numbered' known'
    rw [place, built] at rest
    exact rest

theorem IsNumbered.addClass {b : GraphBuilder} (numbered : b.IsNumbered) (c : ClassRecord) :
    (b.addClass c).graph = b.graph.addClass c ∧ (b.addClass c).IsNumbered := by
  obtain ⟨source, graph, numbered'⟩ := numbered.number c.name
  have known : c.name ∈ (b.number c.name).2.graph.nodes := by
    rw [graph]
    exact b.graph.mem_addName c.name
  have all := numbered'.addEdges known c.edges
  rw [graph, ← source] at all
  exact all

theorem IsNumbered.addClasses {b : GraphBuilder} (numbered : b.IsNumbered)
    (classes : List ClassRecord) :
    (classes.foldl GraphBuilder.addClass b).graph = classes.foldl Graph.addClass b.graph := by
  induction classes generalizing b with
  | nil => rfl
  | cons c classes ih =>
    obtain ⟨graph, numbered'⟩ := numbered.addClass c
    rw [List.foldl_cons, List.foldl_cons, ih numbered', graph]

end GraphBuilder

/-- The graph of a map, told without the numbers of the builder. -/
theorem CodeMap.graph_eq_foldl (m : CodeMap) : m.graph = m.classes.foldl Graph.addClass {} :=
  GraphBuilder.isNumbered_empty.addClasses m.classes

end ClassGraph
