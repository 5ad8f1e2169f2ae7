import ClassGraph.Proofs.Places
import ClassGraph.Record.Rule

namespace ClassGraph

def Event.edge? : Event → Option Edge
  | .edge e => some e
  | _ => none

theorem mem_edgesTo {kind : EdgeKind} {t : ResolvedTree} {event : Event} :
    event ∈ edgesTo kind t ↔ ∃ target ∈ t.value.names, event = .edge ⟨target, kind, t.value.line⟩ := by
  simp only [edgesTo, List.mem_map, eq_comm]

theorem edge_of_mem_edgesTo {kind : EdgeKind} {ts : List ResolvedTree} {event : Event}
    (member : event ∈ ts.flatMap (edgesTo kind)) : ∃ e, event = .edge e ∧ e.kind = kind := by
  obtain ⟨t, -, member⟩ := List.mem_flatMap.mp member
  obtain ⟨target, -, rfl⟩ := mem_edgesTo.mp member
  exact ⟨_, rfl, rfl⟩

/-- A rule records edges of its own kinds, which are never imports, and only the rule for imports
records imports. -/
theorem Rule.event_cases {rule : Rule} {t : ResolvedTree} {event : Event}
    (member : event ∈ rule.events t) :
    (∃ e, event = .edge e ∧ e.kind ∈ rule.kinds ∧ e.kind ≠ .importStatement) ∨
      (∃ target line, event = .use target line ∧ rule = .importStatement) := by
  obtain ⟨n, children⟩ := t
  have ofEdges {kind : EdgeKind} {ts : List ResolvedTree} (own : kind ∈ rule.kinds)
      (noImport : kind ≠ .importStatement) (listed : event ∈ ts.flatMap (edgesTo kind)) :
      ∃ e, event = .edge e ∧ e.kind ∈ rule.kinds ∧ e.kind ≠ .importStatement := by
    obtain ⟨e, rfl, same⟩ := edge_of_mem_edgesTo listed
    exact ⟨e, rfl, same ▸ own, same ▸ noImport⟩
  simp only [Rule.events] at member
  split at member
  case h_4 =>
    have listed : event ∈ [Tree.node n children].flatMap (edgesTo .typeHint) := by simpa using member
    exact .inl (ofEdges (by decide) (by decide) listed)
  case h_9 =>
    split at member
    · exact .inl (ofEdges (by decide) (by decide) member)
    · cases member
  case h_10 =>
    obtain ⟨target, -, rfl⟩ := List.mem_map.mp member
    exact .inr ⟨target, n.line, rfl, rfl⟩
  case h_11 => cases member
  all_goals exact .inl (ofEdges (by decide) (by decide) member)

namespace Tree

theorem eventsAll_eq_flatMap (rules : List Rule) (ts : List ResolvedTree) :
    eventsAll rules ts = ts.flatMap (events rules) := by
  induction ts with
  | nil => rfl
  | cons t ts ih => rw [eventsAll, ih, List.flatMap_cons]

theorem events_node (rules : List Rule) (n : ResolvedNode) (children : List ResolvedTree) :
    (node n children).events rules =
      (n.declares.map .enter).toList ++ rules.flatMap (·.events (node n children)) ++
        children.flatMap (events rules) ++ (n.declares.map fun _ => .leave).toList := by
  rw [events, eventsAll_eq_flatMap]

/-- Besides entering and leaving classes, a walk records what the rules say at single nodes. -/
theorem event_cases {rules : List Rule} {t : ResolvedTree} {event : Event}
    (member : event ∈ t.events rules) :
    (∃ name, event = .enter name) ∨ event = .leave ∨
      ∃ rule ∈ rules, ∃ u : ResolvedTree, event ∈ rule.events u := by
  induction t using Tree.induction with
  | node n children ih =>
    rw [events_node] at member
    simp only [List.mem_append, Option.mem_toList, Option.map_eq_some_iff, List.mem_flatMap] at member
    rcases member with ((⟨name, -, rfl⟩ | ⟨rule, listed, recorded⟩) | ⟨child, below, inChild⟩) |
      ⟨name, -, rfl⟩
    · exact .inl ⟨name, rfl⟩
    · exact .inr (.inr ⟨rule, listed, _, recorded⟩)
    · exact ih child below inChild
    · exact .inr (.inl rfl)

end Tree

/-- Imports stand apart: every recorded import is one, and no edge of a class is. -/
structure Recorder.ImportsApart (r : Recorder) : Prop where
  own : ∀ c ∈ r.classes, ∀ e ∈ c.edges, e.kind ≠ .importStatement
  imported : ∀ e ∈ r.imports, e.kind = .importStatement

namespace Recorder

theorem mem_modify {classes : List ClassRecord} {place : Nat} {f : ClassRecord → ClassRecord}
    {c : ClassRecord} (member : c ∈ classes.modify place f) :
    c ∈ classes ∨ ∃ old ∈ classes, c = f old := by
  obtain ⟨i, bound, rfl⟩ := List.mem_iff_getElem.mp member
  rw [List.length_modify] at bound
  rw [List.getElem_modify]
  split
  · exact .inr ⟨_, List.getElem_mem bound, rfl⟩
  · exact .inl (List.getElem_mem bound)

theorem ImportsApart.step {r : Recorder} (apart : r.ImportsApart) {event : Event}
    (noImport : ∀ e, event = .edge e → e.kind ≠ .importStatement) : (r.step event).ImportsApart := by
  cases event with
  | enter name =>
    refine ⟨?_, apart.imported⟩
    intro c member
    rcases List.mem_append.mp member with old | new
    · exact apart.own c old
    · cases List.mem_singleton.mp new
      simp
  | leave => exact ⟨apart.own, apart.imported⟩
  | edge e =>
    rw [Recorder.step]
    split
    · exact apart
    · refine ⟨?_, apart.imported⟩
      intro c member e' inEdges
      rcases mem_modify member with old | ⟨before, old, rfl⟩
      · exact apart.own c old e' inEdges
      · rcases List.mem_append.mp inEdges with inOld | isNew
        · exact apart.own before old e' inOld
        · cases List.mem_singleton.mp isNew
          exact noImport e rfl
  | use target line =>
    refine ⟨apart.own, ?_⟩
    intro e member
    rcases List.mem_append.mp member with old | new
    · exact apart.imported e old
    · cases List.mem_singleton.mp new
      rfl

theorem ImportsApart.run {r : Recorder} (apart : r.ImportsApart) {events : List Event}
    (noImport : ∀ e, .edge e ∈ events → e.kind ≠ .importStatement) :
    (r.run events).ImportsApart := by
  induction events generalizing r with
  | nil => exact apart
  | cons event events ih =>
    have first : (r.step event).ImportsApart :=
      apart.step fun e same => noImport e (same ▸ List.mem_cons_self)
    exact ih first fun e member => noImport e (List.mem_cons_of_mem event member)

end Recorder

/-- The recorder behind a walk through a tree keeps imports apart. -/
theorem Tree.events_importsApart (rules : List Rule) (t : ResolvedTree) :
    (Recorder.run {} (t.events rules)).ImportsApart := by
  have start : Recorder.ImportsApart {} := ⟨by simp, by simp⟩
  refine start.run ?_
  intro e member
  rcases Tree.event_cases member with ⟨name, impossible⟩ | impossible | ⟨rule, -, u, recorded⟩
  · cases impossible
  · cases impossible
  · rcases Rule.event_cases recorded with ⟨e', same, -, noImport⟩ | ⟨_, _, impossible, -⟩
    · cases same
      exact noImport
    · cases impossible

end ClassGraph
