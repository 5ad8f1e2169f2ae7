import Mathlib.Data.List.Nodup
import ClassGraph.Proofs.Attribution

namespace ClassGraph

/-- The rule that records something at the nodes of a kind. -/
def Kind.rule? : Kind → Option Rule
  | .clause .parents | .clause .interfaces => some .inheritance
  | .clause .traits => some .traitUse
  | .typeExpression _ => some .typeHint
  | .creation => some .instantiation
  | .memberAccess _ | .constantAccess => some .staticAccess
  | .binary => some .classTest
  | .importDeclaration => some .importStatement
  | _ => none

/-- Whether one of several rules records a kind of edges. -/
def Rule.record (rules : List Rule) (kind : EdgeKind) : Bool :=
  rules.any (·.kinds.contains kind)

/-- An event that still happens if only some kinds of edges are recorded. -/
def Event.isKept (keep : EdgeKind → Bool) : Event → Bool
  | .enter _ | .leave => true
  | .edge e => keep e.kind
  | .use _ _ => keep .importStatement

/-- The edges of some kinds, in order. -/
def Edge.keeping (keep : EdgeKind → Bool) (edges : List Edge) : List Edge :=
  edges.filter fun e => keep e.kind

def ClassRecord.keeping (keep : EdgeKind → Bool) (c : ClassRecord) : ClassRecord :=
  { c with edges := Edge.keeping keep c.edges }

/-- A record with all its classes, and with the edges of some kinds only. -/
def FileRecord.keeping (keep : EdgeKind → Bool) (file : FileRecord) : FileRecord :=
  { file with
    classes := file.classes.map (ClassRecord.keeping keep)
    imports := Edge.keeping keep file.imports }

namespace Rule

theorem silent {rule : Rule} {t : ResolvedTree} (other : t.value.kind.rule? ≠ some rule) :
    rule.events t = [] := by
  obtain ⟨n, children⟩ := t
  rw [Tree.value_node] at other
  simp only [Rule.events]
  split
  case h_11 => rfl
  all_goals
    rename_i kind
    rw [kind] at other
    exact absurd rfl other

theorem mem_standard (rule : Rule) : rule ∈ standard := by
  cases rule <;> decide

theorem eq_of_kind {rule other : Rule} {kind : EdgeKind} (own : kind ∈ rule.kinds)
    (alsoOwn : kind ∈ other.kinds) : rule = other := by
  have apart : ∀ rule ∈ standard, ∀ other ∈ standard, ∀ kind ∈ EdgeKind.all,
      kind ∈ rule.kinds → kind ∈ other.kinds → rule = other := by decide
  exact apart rule (mem_standard rule) other (mem_standard other) kind (EdgeKind.mem_all kind) own
    alsoOwn

theorem record_iff {rules : List Rule} {rule : Rule} {kind : EdgeKind} (own : kind ∈ rule.kinds) :
    record rules kind = true ↔ rule ∈ rules := by
  rw [record, List.any_eq_true]
  constructor
  · rintro ⟨other, listed, also⟩
    rwa [eq_of_kind own (List.contains_iff_mem.mp also)]
  · intro listed
    exact ⟨rule, listed, List.contains_iff_mem.mpr own⟩

/-- All that a rule records is kept with the rule, and lost without it. -/
theorem isKept_iff {rules : List Rule} {rule : Rule} {t : ResolvedTree} {event : Event}
    (recorded : event ∈ rule.events t) : event.isKept (record rules) = true ↔ rule ∈ rules := by
  rcases event_cases recorded with ⟨e, rfl, own, -⟩ | ⟨target, line, rfl, rfl⟩
  · exact record_iff own
  · exact record_iff (by decide)

theorem flatMap_events {rules : List Rule} (nodup : rules.Nodup) {rule : Rule} {t : ResolvedTree}
    (speaks : t.value.kind.rule? = some rule) :
    rules.flatMap (·.events t) = if rule ∈ rules then rule.events t else [] := by
  have others {rest : List Rule} (apart : rule ∉ rest) : rest.flatMap (·.events t) = [] := by
    refine List.flatMap_eq_nil_iff.mpr fun other listed => silent ?_
    rw [speaks]
    intro same
    exact apart (Option.some.inj same ▸ listed)
  split
  · rename_i listed
    obtain ⟨before, after, rfl⟩ := List.append_of_mem listed
    rw [List.nodup_append, List.nodup_cons] at nodup
    obtain ⟨-, ⟨notAfter, -⟩, disjoint⟩ := nodup
    have notBefore : rule ∉ before := fun early => disjoint rule early rule List.mem_cons_self rfl
    rw [List.flatMap_append, List.flatMap_cons, others notBefore, others notAfter, List.append_nil,
      List.nil_append]
  · exact others ‹_›

/-- At a node, a list of rules records what the standard rules record there, less what is not kept. -/
theorem flatMap_events_eq_filter {rules : List Rule} (nodup : rules.Nodup) (t : ResolvedTree) :
    rules.flatMap (·.events t) =
      (standard.flatMap (·.events t)).filter (Event.isKept (record rules)) := by
  cases speaks : t.value.kind.rule? with
  | none =>
    have nothing (rules : List Rule) : rules.flatMap (·.events t) = [] :=
      List.flatMap_eq_nil_iff.mpr fun rule _ => silent (by simp [speaks])
    rw [nothing, nothing]
    rfl
  | some rule =>
    rw [flatMap_events nodup speaks, flatMap_events (by decide) speaks, if_pos (mem_standard rule)]
    split
    · rename_i listed
      exact (List.filter_eq_self.mpr fun event recorded => (isKept_iff recorded).mpr listed).symm
    · rename_i unlisted
      refine (List.filter_eq_nil_iff.mpr fun event recorded kept => ?_).symm
      exact unlisted ((isKept_iff recorded).mp kept)

end Rule

theorem Tree.events_eq_filter {rules : List Rule} (nodup : rules.Nodup) (t : ResolvedTree) :
    t.events rules = (t.events Rule.standard).filter (Event.isKept (Rule.record rules)) := by
  induction t using Tree.induction with
  | node n children ih =>
    rw [events_node, events_node, Rule.flatMap_events_eq_filter nodup, List.flatMap_congr ih]
    simp only [List.filter_append, List.filter_flatMap]
    cases n.declares <;> rfl

namespace Recorder

variable (keep : EdgeKind → Bool)

def keeping (r : Recorder) : Recorder :=
  { r with
    classes := r.classes.map (ClassRecord.keeping keep)
    imports := Edge.keeping keep r.imports }

theorem keeping_addEdge (e : Edge) (c : ClassRecord) : (addEdge e c).keeping keep =
    if keep e.kind then addEdge e (c.keeping keep) else c.keeping keep := by
  rw [ClassRecord.keeping, Edge.keeping, addEdge, List.filter_append]
  cases kept : keep e.kind <;> simp [kept, ClassRecord.keeping, Edge.keeping, addEdge]

theorem keeping_modify (e : Edge) (classes : List ClassRecord) (place : Nat) :
    (classes.modify place (addEdge e)).map (ClassRecord.keeping keep) =
      if keep e.kind then (classes.map (ClassRecord.keeping keep)).modify place (addEdge e)
      else classes.map (ClassRecord.keeping keep) := by
  refine List.ext_getElem? fun i => ?_
  rw [List.getElem?_map, List.getElem?_modify]
  cases kept : keep e.kind with
  | true =>
    rw [if_pos rfl, List.getElem?_modify, List.getElem?_map]
    cases classes[i]? with
    | none => rfl
    | some c => by_cases here : place = i <;> simp [here, keeping_addEdge, kept]
  | false =>
    rw [if_neg Bool.false_ne_true, List.getElem?_map]
    cases classes[i]? with
    | none => rfl
    | some c => by_cases here : place = i <;> simp [here, keeping_addEdge, kept]

/-- A step goes over to the kept part: an event that is kept does there what it does, and any other
event does nothing. -/
theorem keeping_step (r : Recorder) (event : Event) : (r.step event).keeping keep =
    if event.isKept keep then (r.keeping keep).step event else r.keeping keep := by
  cases event with
  | enter name => simp [step, keeping, Event.isKept, ClassRecord.keeping, Edge.keeping]
  | leave => rfl
  | edge e =>
    cases opened : r.opened with
    | nil => simp [step, keeping, opened]
    | cons place rest =>
      have classes := keeping_modify keep e r.classes place
      cases kept : keep e.kind <;> simp_all [step, keeping, Event.isKept]
  | use target line =>
    cases kept : keep .importStatement <;> simp [step, keeping, Event.isKept, Edge.keeping, kept]

theorem keeping_run (r : Recorder) (events : List Event) :
    (r.run events).keeping keep = (r.keeping keep).run (events.filter (Event.isKept keep)) := by
  induction events generalizing r with
  | nil => rfl
  | cons event events ih =>
    have first := keeping_step keep r event
    have rest := ih (r.step event)
    rw [List.filter_cons]
    split at first
    · rw [if_pos ‹_›]
      exact rest.trans (first ▸ rfl)
    · rw [if_neg ‹_›]
      exact rest.trans (first ▸ rfl)

theorem keeping_finish (r : Recorder) (path : Pathname) (countsImports : Bool) :
    (r.finish path countsImports).keeping keep = (r.keeping keep).finish path countsImports := by
  cases countsImports <;>
    simp [finish, keeping, FileRecord.keeping, ClassRecord.keeping, Edge.keeping]

end Recorder

/-- The record that a list of rules without repetition makes of a tree is the one that the standard
rules make, with all its classes and, in order, the edges and imports of the kinds that a listed rule
records. The order of the rules does not matter. -/
theorem FileRecord.ofTree_rules {rules : List Rule} (nodup : rules.Nodup) (path : Pathname)
    (countsImports : Bool) (t : SyntaxTree) :
    ofTree rules path countsImports t =
        (ofTree Rule.standard path countsImports t).keeping (Rule.record rules) ∧
      (ofTree rules path countsImports t).classes.map (·.name) =
        (ofTree Rule.standard path countsImports t).classes.map (·.name) ∧
      ∀ reordered, reordered.Perm rules →
        ofTree reordered path countsImports t = ofTree rules path countsImports t := by
  have filtered {rules : List Rule} (nodup : rules.Nodup) : ofTree rules path countsImports t =
      (ofTree Rule.standard path countsImports t).keeping (Rule.record rules) := by
    rw [ofTree, ofTree, ofEvents, ofEvents, Tree.events_eq_filter nodup, Recorder.keeping_finish,
      Recorder.keeping_run]
    rfl
  refine ⟨filtered nodup, ?_, ?_⟩
  · rw [names_classes, names_classes]
  · intro reordered perm
    have sameKinds : Rule.record reordered = Rule.record rules := by
      funext kind
      exact perm.any_eq
    rw [filtered nodup, filtered (perm.nodup_iff.mpr nodup), sameKinds]

theorem FileRecord.ofTree_rules_sampleClass :
    [Rule.classTest, .instantiation, .inheritance].Nodup ∧
      ofTree [.classTest, .instantiation, .inheritance] ⟨"A.php"⟩ true Tree.sampleClass =
        (ofTree Rule.standard ⟨"A.php"⟩ true Tree.sampleClass).keeping
          (Rule.record [.classTest, .instantiation, .inheritance]) ∧
      ofTree [.inheritance, .classTest, .instantiation] ⟨"A.php"⟩ true Tree.sampleClass =
        ofTree [.classTest, .instantiation, .inheritance] ⟨"A.php"⟩ true Tree.sampleClass := by
  have nodup : [Rule.classTest, .instantiation, .inheritance].Nodup := by decide
  obtain ⟨filtered, -, reordered⟩ := ofTree_rules nodup ⟨"A.php"⟩ true Tree.sampleClass
  exact ⟨nodup, filtered, reordered _ (by decide)⟩

end ClassGraph
