import ClassGraph.Proofs.FaithfulCache
import ClassGraph.Proofs.Namespaces

namespace ClassGraph

namespace Recorder

variable {r : Recorder} {e : Edge}

theorem InRange.of_closed (closed : r.opened = []) : r.InRange := by
  intro place member
  rw [closed] at member
  cases member

theorem InRange.step (inRange : r.InRange) (event : Event) : (r.step event).InRange := by
  cases event with
  | enter name => exact inRange.enter name
  | leave => exact fun place member => inRange place (List.mem_of_mem_tail member)
  | edge e =>
    rw [Recorder.step]
    split
    · exact inRange
    · intro place member
      rw [List.length_modify]
      exact inRange place member
  | use target line => exact inRange

/-- An edge stands among those of a class. -/
def Owns (r : Recorder) (e : Edge) : Prop :=
  ∃ c ∈ r.classes, e ∈ c.edges

theorem owns_enter (name : String) : (r.step (.enter name)).Owns e ↔ r.Owns e := by
  simp [Owns, Recorder.step, or_and_right, exists_or]

theorem owns_edge (inRange : r.InRange) (added : Edge) :
    (r.step (.edge added)).Owns e ↔ r.Owns e ∨ e = added ∧ r.opened ≠ [] := by
  rw [Recorder.step]
  split
  · rename_i closed
    simp [closed]
  · rename_i place others opened
    have bound : place < r.classes.length := inRange place (opened ▸ List.mem_cons_self)
    obtain ⟨front, c, back, classes, -, modified⟩ := List.exists_of_modify (addEdge added) bound
    rw [Owns, Owns, modified, classes, opened]
    simp only [List.mem_append, List.mem_cons, addEdge, or_and_right, exists_or, exists_eq_left,
      List.not_mem_nil, or_false, ne_eq, reduceCtorEq, not_false_eq_true, and_true]
    exact (or_congr_right or_right_comm).trans or_assoc.symm

/-- An edge is attached if a class is open where it is recorded. -/
theorem owns_step (inRange : r.InRange) (event : Event) :
    (r.step event).Owns e ↔ r.Owns e ∨ event = .edge e ∧ r.opened ≠ [] := by
  cases event with
  | enter name => simp [owns_enter]
  | leave => simp [Owns, Recorder.step]
  | edge added => rw [owns_edge inRange, Event.edge.injEq, eq_comm]
  | use target line => simp [Owns, Recorder.step]

theorem owns_run (inRange : r.InRange) (events : List Event) :
    (r.run events).Owns e ↔ r.Owns e ∨ ∃ before after,
      events = before ++ .edge e :: after ∧ (r.run before).opened ≠ [] := by
  induction events generalizing r with
  | nil => simp [Recorder.run]
  | cons event events ih =>
    have rest : (r.run (event :: events)).Owns e ↔ _ := ih (inRange.step event)
    rw [rest, owns_step inRange]
    constructor
    · rintro ((owned | ⟨rfl, opened⟩) | ⟨before, after, rfl, opened⟩)
      · exact .inl owned
      · exact .inr ⟨[], events, rfl, opened⟩
      · exact .inr ⟨event :: before, after, rfl, opened⟩
    · rintro (owned | ⟨before, after, split, opened⟩)
      · exact .inl (.inl owned)
      · cases before with
        | nil =>
          obtain ⟨rfl, rfl⟩ := List.cons.inj split
          exact .inl (.inr ⟨rfl, opened⟩)
        | cons first before =>
          obtain ⟨rfl, rfl⟩ := List.cons.inj split
          exact .inr ⟨before, after, rfl, opened⟩

theorem imports_marked_run (events : List Event) :
    ∀ e ∈ (Recorder.run {} events).imports, e.kind = .importStatement := by
  intro e member
  rw [imports_run, List.mem_append] at member
  rcases member with impossible | recorded
  · cases impossible
  · obtain ⟨event, -, isImport⟩ := List.mem_filterMap.mp recorded
    cases event <;> cases isImport
    rfl

/-- A record comes back exactly if no edge of a class is an import. -/
theorem restored_iff (imported : ∀ e ∈ r.imports, e.kind = .importStatement) (fingerprint : String)
    (path : Pathname) (countsImports : Bool) :
    (StoredRecord.ofRecord fingerprint (r.finish path countsImports)).toRecord =
      r.finish path countsImports ↔ ∀ e, r.Owns e → e.kind ≠ .importStatement := by
  constructor
  · intro restored e ⟨c, member, isEdge⟩
    have marked := congrArg FileRecord.imports restored
    have classes := congrArg FileRecord.classes restored
    simp only [StoredRecord.ofRecord, StoredRecord.toRecord, finish, List.map_map] at marked classes
    have edges := congrArg ClassRecord.edges (List.map_inj_left.mp classes c member)
    have kept : c.edges.filter (·.kind != .importStatement) = c.edges := by
      cases countsImports with
      | false => exact edges
      | true =>
        have noImports : r.imports.filter (·.kind != .importStatement) = [] := by
          refine List.filter_eq_nil_iff.mpr fun e member => ?_
          simpa using imported e member
        simp only [Function.comp_apply, if_true, marked, List.filter_append, noImports,
          List.append_nil] at edges
        exact List.append_cancel_right edges
    simpa using List.filter_eq_self.mp kept e isEdge
  · intro none
    have apart : r.ImportsApart := ⟨fun c member e isEdge => none e ⟨c, member, isEdge⟩, imported⟩
    exact apart.restored fingerprint path countsImports

end Recorder

namespace ClassRecord

/-- A class recorded on its own. -/
def events (c : ClassRecord) : List Event :=
  .enter c.name :: c.edges.map .edge ++ [.leave]

theorem run_events (c : ClassRecord) {r : Recorder} (inRange : r.InRange) :
    (r.run c.events).classes = r.classes ++ [c] ∧ (r.run c.events).opened = r.opened := by
  have flat : ∀ event ∈ c.edges.map Event.edge, Recorder.IsFlat event := by
    intro event member
    obtain ⟨e, -, rfl⟩ := List.mem_map.mp member
    exact .inl ⟨e, rfl⟩
  have edges : (c.edges.map Event.edge).filterMap Event.edge? = c.edges := by
    rw [List.filterMap_map]
    exact List.filterMap_some
  have opened := Recorder.opened_run_flat flat (r.step (.enter c.name))
  have classes := Recorder.classes_run_flat flat (inRange.enter c.name)
  rw [edges, Recorder.charged_enter] at classes
  have left : r.run c.events =
      ((r.step (.enter c.name)).run (c.edges.map .edge)).step .leave := by
    rw [events, Recorder.run_append]
    rfl
  rw [left]
  exact ⟨classes, congrArg List.tail opened⟩

end ClassRecord

namespace StoredRecord

/-- What restoring records. -/
def events (stored : StoredRecord) : List Event :=
  stored.classes.flatMap (·.events) ++ stored.imports.map fun e => .use e.target e.line

theorem run_classes (classes : List ClassRecord) {r : Recorder} (closed : r.opened = []) :
    (r.run (classes.flatMap (·.events))).classes = r.classes ++ classes ∧
      (r.run (classes.flatMap (·.events))).opened = [] := by
  induction classes generalizing r with
  | nil => exact ⟨(List.append_nil _).symm, closed⟩
  | cons c classes ih =>
    obtain ⟨first, opened⟩ := c.run_events (Recorder.InRange.of_closed closed)
    obtain ⟨others, left⟩ := ih (opened.trans closed)
    rw [List.flatMap_cons, Recorder.run_append]
    refine ⟨?_, left⟩
    rw [others, first, List.append_assoc, List.singleton_append]

theorem classes_events (stored : StoredRecord) :
    (Recorder.run {} stored.events).classes = stored.classes := by
  have flat : ∀ event ∈ stored.imports.map fun e => Event.use e.target e.line,
      Recorder.IsFlat event := by
    intro event member
    obtain ⟨e, -, rfl⟩ := List.mem_map.mp member
    exact .inr ⟨e.target, e.line, rfl⟩
  have noEdges :
      (stored.imports.map fun e => Event.use e.target e.line).filterMap Event.edge? = [] := by
    refine List.filterMap_eq_nil_iff.mpr fun event member => ?_
    obtain ⟨e, -, rfl⟩ := List.mem_map.mp member
    rfl
  obtain ⟨classes, closed⟩ := @run_classes stored.classes {} rfl
  rw [events, Recorder.run_append,
    Recorder.classes_run_flat flat (Recorder.InRange.of_closed closed), noEdges,
    Recorder.charged_nil, classes]
  rfl

theorem imports_events (stored : StoredRecord) : (Recorder.run {} stored.events).imports =
    stored.imports.map fun e => { e with kind := .importStatement } := by
  have noImports : (stored.classes.flatMap (·.events)).filterMap Event.import? = [] := by
    refine List.filterMap_eq_nil_iff.mpr fun event member => ?_
    obtain ⟨c, -, recorded⟩ := List.mem_flatMap.mp member
    simp only [ClassRecord.events, List.mem_append, List.mem_cons, List.mem_map, List.not_mem_nil,
      or_false] at recorded
    rcases recorded with (rfl | ⟨e, -, rfl⟩) | rfl <;> rfl
  rw [Recorder.imports_run, events, List.filterMap_append, noImports, List.nil_append,
    List.filterMap_map]
  exact congrFun List.filterMap_eq_map' stored.imports

/-- A stored form is restored by recording its classes one after another and then its imports. -/
theorem toRecord_eq_ofEvents (stored : StoredRecord) :
    stored.toRecord = .ofEvents stored.path stored.countsImports stored.events := by
  rw [FileRecord.ofEvents, Recorder.finish, classes_events, imports_events]
  rfl

/-- A stored form with imports in their place only is stored again as it was. -/
theorem ofRecord_toRecord {stored : StoredRecord}
    (own : ∀ c ∈ stored.classes, ∀ e ∈ c.edges, e.kind ≠ .importStatement)
    (imported : ∀ e ∈ stored.imports, e.kind = .importStatement) :
    ofRecord stored.fingerprint stored.toRecord = stored := by
  obtain ⟨path, fingerprint, countsImports, classes, imports⟩ := stored
  have apart : Recorder.ImportsApart { classes, imports } := ⟨own, imported⟩
  simp only [ofRecord, toRecord, apart.imports_marked, List.map_map, mk.injEq, true_and, and_true]
  refine (List.map_congr_left fun c member => ?_).trans (List.map_id _)
  have kept := apart.filter_own member
  cases countsImports with
  | false => simp [kept]
  | true => simp [kept, apart.filter_imports]

end StoredRecord

/-- An event records an edge where a class is open. -/
def Event.Attaches (events : List Event) (e : Edge) : Prop :=
  ∃ before after, events = before ++ .edge e :: after ∧ (Recorder.run {} before).opened ≠ []

theorem Recorder.owns_iff_attaches {events : List Event} {e : Edge} :
    (Recorder.run {} events).Owns e ↔ Event.Attaches events e := by
  rw [owns_run (InRange.of_closed rfl)]
  refine or_iff_right ?_
  rintro ⟨c, impossible, -⟩
  cases impossible

/-- Records survive storing. Whatever was recorded, in or out of balance, comes back from its stored
form exactly if no edge that was attached to a class is an import, which is so for every record of a
tree. Restoring means recording the classes flat and then the imports. The other way round, a stored
form in which all imports and nothing else are imports is what its record is stored as. -/
theorem StoredRecord.round_trip :
    (∀ fingerprint path countsImports (events : List Event),
      let file := FileRecord.ofEvents path countsImports events
      let restored := (ofRecord fingerprint file).toRecord
      (restored = file ↔ ∀ e, Event.Attaches events e → e.kind ≠ .importStatement) ∧
        (restored.same file = true ↔ restored = file)) ∧
    (∀ fingerprint rules path countsImports t,
      let file := FileRecord.ofTree rules path countsImports t
      (ofRecord fingerprint file).toRecord = file) ∧
    (∀ stored : StoredRecord,
      stored.toRecord = .ofEvents stored.path stored.countsImports stored.events) ∧
    ∀ stored : StoredRecord,
      (∀ c ∈ stored.classes, ∀ e ∈ c.edges, e.kind ≠ .importStatement) →
      (∀ e ∈ stored.imports, e.kind = .importStatement) →
      ofRecord stored.fingerprint stored.toRecord = stored := by
  refine ⟨?_, ?_, toRecord_eq_ofEvents, fun stored => ofRecord_toRecord⟩
  · intro fingerprint path countsImports events file restored
    constructor
    · have back := Recorder.restored_iff (Recorder.imports_marked_run events) fingerprint path
        countsImports
      simp only [Recorder.owns_iff_attaches] at back
      exact back
    · refine ⟨fun same => ?_, fun equal => equal ▸ FileRecord.same_refl file⟩
      obtain ⟨-, classes, imports, counted⟩ := FileRecord.same_iff.mp same
      rw [FileRecord.mk.injEq]
      exact ⟨rfl, classes, imports, counted⟩
  · intro fingerprint rules path countsImports t
    exact FileRecord.restored_ofTree rules path countsImports t fingerprint

namespace StoredRecord

/-- Classes nested in each other and never left, with an import between them. -/
def sampleNested (kind : EdgeKind) : List Event :=
  [.leave, .edge ⟨"X", .importStatement, 1⟩, .enter "A", .use "L" 2, .enter "A",
    .edge ⟨"P", kind, 3⟩]

theorem round_trip_sampleNested :
    let file := FileRecord.ofEvents ⟨"A.php"⟩ true (sampleNested .inherits)
    let broken := FileRecord.ofEvents ⟨"A.php"⟩ true (sampleNested .importStatement)
    (ofRecord "f" (ofRecord "f" file).toRecord = ofRecord "f" file) ∧
      (ofRecord "f" file).toRecord = .ofEvents ⟨"A.php"⟩ true (ofRecord "f" file).events ∧
      (ofRecord "f" broken).toRecord ≠ broken := by
  intro file broken
  obtain ⟨recorded, -, restored, stored⟩ := round_trip
  refine ⟨stored (ofRecord "f" file) (by decide) (by decide), restored _, fun same => ?_⟩
  have attached : Event.Attaches (sampleNested .importStatement) ⟨"P", .importStatement, 3⟩ :=
    ⟨[_, _, _, _, _], [], rfl, by decide⟩
  exact (recorded "f" ⟨"A.php"⟩ true (sampleNested .importStatement)).1.mp same _ attached rfl

end StoredRecord

end ClassGraph
