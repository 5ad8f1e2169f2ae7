import ClassGraph.Proofs.Ancestry
import ClassGraph.Proofs.NodeNumbers

namespace ClassGraph

namespace Graph

/-- Whether a graph goes on where another one ends: it begins with the same nodes and links. -/
structure Extends (g g' : Graph) : Prop where
  nodes : g.nodes <+: g'.nodes
  links : g.links <+: g'.links

namespace Extends

theorem refl (g : Graph) : g.Extends g :=
  ⟨List.prefix_refl _, List.prefix_refl _⟩

theorem trans {g h k : Graph} (first : g.Extends h) (second : h.Extends k) : g.Extends k :=
  ⟨first.nodes.trans second.nodes, first.links.trans second.links⟩

/-- What every step of a fold extends is extended by the whole fold. -/
theorem foldl {α : Type} {step : Graph → α → Graph} (items : List α)
    (each : ∀ (g : Graph) a, g.Extends (step g a)) (g : Graph) : g.Extends (items.foldl step g) := by
  induction items generalizing g with
  | nil => exact refl g
  | cons first rest ih => exact (each g first).trans (ih (step g first))

theorem addName (g : Graph) (name : String) : g.Extends (g.addName name) :=
  ⟨g.prefix_addName name, (g.links_addName name).symm ▸ List.prefix_refl _⟩

theorem addEdge (source : String) (g : Graph) (e : Edge) : g.Extends (Graph.addEdge source g e) := by
  have withTarget := addName g e.target
  exact ⟨withTarget.nodes, withTarget.links.trans (List.prefix_append _ _)⟩

theorem addClass (g : Graph) (c : ClassRecord) : g.Extends (g.addClass c) := by
  have withName := addName g c.name
  exact withName.trans (foldl c.edges (addEdge c.name) (g.addName c.name))

end Extends

end Graph

namespace CodeMap

theorem entries_append (files more : List FileRecord) :
    (CodeMap.mk (files ++ more)).entries = (CodeMap.mk files).entries ++ (CodeMap.mk more).entries :=
  List.flatMap_append

theorem classes_append (files more : List FileRecord) :
    (CodeMap.mk (files ++ more)).classes = (CodeMap.mk files).classes ++ (CodeMap.mk more).classes :=
  List.flatMap_append

theorem find?_append {files : List FileRecord} {name : String} {entry : FileRecord × ClassRecord}
    (found : CodeMap.find? ⟨files⟩ name = some entry) (more : List FileRecord) :
    CodeMap.find? ⟨files ++ more⟩ name = some entry := by
  rw [find?_eq] at found ⊢
  rw [entries_append, List.find?_append, found, Option.some_or]

theorem Leads.append {files : List FileRecord} {name target : String}
    (leads : (CodeMap.mk files).Leads name target) (more : List FileRecord) :
    (CodeMap.mk (files ++ more)).Leads name target := by
  obtain ⟨c, found, member⟩ := leads
  obtain ⟨entry, foundEntry, rfl⟩ := Option.map_eq_some_iff.mp found
  refine ⟨entry.2, ?_, member⟩
  rw [class?, find?_append foundEntry more, Option.map_some]

theorem graph_extends (files more : List FileRecord) :
    (CodeMap.mk files).graph.Extends (CodeMap.mk (files ++ more)).graph := by
  rw [graph_eq_foldl, graph_eq_foldl, classes_append, List.foldl_append]
  exact Graph.Extends.foldl (CodeMap.mk more).classes Graph.Extends.addClass _

/-- Putting files behind those of a map only adds to it. A class that is found by a name is still
found, in the same file; whatever was an ancestor of a name still is one; and the graph begins with
the nodes and the links that it had, in their places. -/
theorem extended_by_files (files more : List FileRecord) :
    let m := CodeMap.mk files
    let whole := CodeMap.mk (files ++ more)
    (∀ name file c, m.find? name = some (file, c) →
      whole.find? name = some (file, c) ∧ m.class? name = some c ∧ whole.class? name = some c) ∧
    (∀ name, ∀ ancestor ∈ m.ancestors name, ancestor ∈ whole.ancestors name) ∧
    m.graph.nodes <+: whole.graph.nodes ∧ m.graph.links <+: whole.graph.links := by
  intro m whole
  have extended := graph_extends files more
  refine ⟨?_, ?_, extended.nodes, extended.links⟩
  · intro name file c found
    have still : whole.find? name = some (file, c) := find?_append found more
    refine ⟨still, ?_, ?_⟩
    · rw [class?, found, Option.map_some]
    · rw [class?, still, Option.map_some]
  · intro name ancestor member
    have wider : ∀ a b, m.Leads a b → whole.Leads a b := fun a b leads => leads.append more
    exact mem_ancestors.mpr (Relation.TransGen.mono wider name ancestor (mem_ancestors.mp member))

/-- A class with a parent. -/
def sampleHeir (name parent : String) : ClassRecord :=
  { name, edges := [⟨parent, .inherits, 1⟩] }

/-- The files behind declare the parent, which was external, and the class itself once more. -/
theorem extended_by_files_redeclared :
    let first : FileRecord := { path := ⟨"A.php"⟩, classes := [sampleHeir "A" "B"] }
    let second : FileRecord :=
      { path := ⟨"B.php"⟩, classes := [sampleHeir "B" "C", sampleHeir "A" "D"] }
    let m := CodeMap.mk [first]
    let whole := CodeMap.mk ([first] ++ [second])
    m.find? "\\A" = some (first, sampleHeir "A" "B") ∧
      whole.find? "\\A" = some (first, sampleHeir "A" "B") ∧
      whole.class? "\\A" = some (sampleHeir "A" "B") ∧
      "B" ∈ m.ancestors "\\A" ∧ "B" ∈ whole.ancestors "\\A" ∧
      m.graph = ⟨["A", "B"], [⟨0, 1, .inherits⟩]⟩ ∧
      whole.graph.nodes = ["A", "B", "C", "D"] := by
  intro first second m whole
  obtain ⟨classes, ancestors, -, -⟩ := extended_by_files [first] [second]
  have found : m.find? "\\A" = some (first, sampleHeir "A" "B") := (m.find?_eq _).trans (by decide)
  obtain ⟨still, known, same⟩ := classes "\\A" first (sampleHeir "A" "B") found
  have parent : "B" ∈ m.ancestors "\\A" :=
    mem_ancestors.mpr (.single ⟨sampleHeir "A" "B", known, by decide⟩)
  refine ⟨found, still, same, parent, ancestors "\\A" "B" parent, ?_, ?_⟩
  · rw [graph_eq_foldl]
    decide
  · rw [graph_eq_foldl]
    decide

end CodeMap

end ClassGraph
