import ClassGraph.Proofs.Ownership
import ClassGraph.Proofs.Recording
import ClassGraph.Proofs.Resolution

namespace ClassGraph

/-- The edges that several rules record at a node. -/
def Rule.edgesAt (rules : List Rule) (t : ResolvedTree) : List Edge :=
  (rules.flatMap (·.events t)).filterMap Event.edge?

namespace Recorder

/-- Every open class is one of the classes entered so far. -/
def InRange (r : Recorder) : Prop :=
  ∀ place ∈ r.opened, place < r.classes.length

/-- The classes after several edges were charged to the innermost open class. -/
def charged (r : Recorder) (edges : List Edge) : List ClassRecord :=
  match r.opened with
  | [] => r.classes
  | place :: _ => r.classes.modify place fun c => { c with edges := c.edges ++ edges }

theorem charged_nil (r : Recorder) : r.charged [] = r.classes := by
  unfold charged
  split
  · rfl
  · simp only [List.append_nil]
    exact List.modify_id _ _

theorem charged_length (r : Recorder) (edges : List Edge) :
    (r.charged edges).length = r.classes.length := by
  unfold charged
  split
  · rfl
  · exact List.length_modify _ _ _

theorem modify_append {place : Nat} {first : List ClassRecord} (bound : place < first.length)
    (f : ClassRecord → ClassRecord) (second : List ClassRecord) :
    (first ++ second).modify place f = first.modify place f ++ second := by
  induction first generalizing place with
  | nil => cases bound
  | cons c first ih =>
    cases place with
    | zero => rfl
    | succ place => exact congrArg (c :: ·) (ih (Nat.lt_of_succ_lt_succ bound))

/-- Charging a second list behind a first one, with classes entered in between. -/
theorem charged_again {r s : Recorder} (inRange : r.InRange) (sameOpened : s.opened = r.opened)
    {first : List Edge} {later : List ClassRecord} (classes : s.classes = r.charged first ++ later)
    (second : List Edge) : s.charged second = r.charged (first ++ second) ++ later := by
  cases opened : r.opened with
  | nil =>
    rw [charged, opened] at classes
    rw [charged, charged, sameOpened, opened]
    exact classes
  | cons place rest =>
    have bound : place < r.classes.length := inRange place (opened ▸ List.mem_cons_self)
    rw [charged, opened] at classes
    rw [charged, charged, sameOpened, opened]
    dsimp only at classes ⊢
    rw [classes, modify_append (by rwa [List.length_modify]), List.modify_modify_eq]
    simp only [Function.comp_def, List.append_assoc]

theorem InRange.enter {r : Recorder} (inRange : r.InRange) (name : String) :
    (r.step (.enter name)).InRange := by
  intro place member
  rw [step, List.length_append, List.length_singleton]
  rcases List.mem_cons.mp member with rfl | older
  · exact Nat.lt_succ_self _
  · exact Nat.lt_succ_of_lt (inRange place older)

theorem charged_enter (r : Recorder) (name : String) (edges : List Edge) :
    (r.step (.enter name)).charged edges = r.classes ++ [⟨name, edges⟩] := by
  have atEnd : ∀ classes : List ClassRecord,
      (classes ++ [⟨name, []⟩] : List ClassRecord).modify classes.length
        (fun c => { c with edges := c.edges ++ edges }) = classes ++ [⟨name, edges⟩] := by
    intro classes
    induction classes with
    | nil => rfl
    | cons c classes ih => exact congrArg (c :: ·) ih
  exact atEnd r.classes

/-- An event that neither enters nor leaves a class. -/
def IsFlat (event : Event) : Prop :=
  (∃ e, event = .edge e) ∨ ∃ target line, event = .use target line

theorem opened_run_flat {events : List Event} (flat : ∀ event ∈ events, IsFlat event)
    (r : Recorder) : (r.run events).opened = r.opened := by
  induction events generalizing r with
  | nil => rfl
  | cons event events ih =>
    have rest := ih (fun event member => flat event (List.mem_cons_of_mem _ member)) (r.step event)
    refine rest.trans ?_
    rcases flat event List.mem_cons_self with ⟨e, rfl⟩ | ⟨target, line, rfl⟩
    · rw [step]
      split <;> rfl
    · rfl

/-- Events that neither enter nor leave a class charge their edges to the innermost open one. -/
theorem classes_run_flat {events : List Event} (flat : ∀ event ∈ events, IsFlat event)
    {r : Recorder} (inRange : r.InRange) :
    (r.run events).classes = r.charged (events.filterMap Event.edge?) := by
  induction events generalizing r with
  | nil => exact (charged_nil r).symm
  | cons event events ih =>
    have rest := fun event member => flat event (List.mem_cons_of_mem _ member)
    rcases flat event List.mem_cons_self with ⟨e, rfl⟩ | ⟨target, line, rfl⟩
    · have opened : (r.step (.edge e)).opened = r.opened :=
        opened_run_flat (fun event member => .inl ⟨e, List.mem_singleton.mp member⟩) r
      have classes : (r.step (.edge e)).classes = r.charged [e] := by
        rw [step, charged]
        cases r.opened <;> rfl
      have inRange' : (r.step (.edge e)).InRange := by
        intro place member
        rw [classes, charged_length]
        exact inRange place (opened ▸ member)
      have again := charged_again inRange opened (classes.trans (List.append_nil _).symm)
        (events.filterMap Event.edge?)
      rw [List.append_nil] at again
      exact (ih rest inRange').trans again
    · exact ih rest inRange

end Recorder

theorem Rule.events_flat (rules : List Rule) (t : ResolvedTree) :
    ∀ event ∈ rules.flatMap (·.events t), Recorder.IsFlat event := by
  intro event member
  obtain ⟨rule, -, recorded⟩ := List.mem_flatMap.mp member
  rcases Rule.event_cases recorded with ⟨e, same, -⟩ | ⟨target, line, same, -⟩
  · exact .inl ⟨e, same⟩
  · exact .inr ⟨target, line, same⟩

theorem Rule.kind_of_edgesAt {rules : List Rule} {t : ResolvedTree} {e : Edge}
    (recorded : e ∈ edgesAt rules t) : e.kind ≠ .importStatement := by
  obtain ⟨event, member, isEdge⟩ := List.mem_filterMap.mp recorded
  obtain ⟨rule, -, member⟩ := List.mem_flatMap.mp member
  rcases Rule.event_cases member with ⟨e', rfl, -, noImport⟩ | ⟨target, line, rfl, -⟩
  · cases isEdge
    exact noImport
  · cases isEdge

namespace Tree

/-- The classes that a tree declares, each with the edges recorded at the nodes it owns. -/
def attributed (rules : List Rule) (t : ResolvedTree) : List ClassRecord :=
  t.declaring.map fun declared =>
    { name := declared.2, edges := t.gather (Rule.edgesAt rules) (some declared.1) }

theorem attributed_node (rules : List Rule) (n : ResolvedNode) (children : List ResolvedTree) :
    (node n children).attributed rules =
      (n.declares.map fun name =>
        { name, edges := Rule.edgesAt rules (node n children) ++
            children.flatMap (gather (Rule.edgesAt rules) · none) }).toList ++
        children.flatMap (attributed rules) := by
  have below : ∀ entry ∈ children.zipIdx, (entry.1.declaring.map fun declared =>
      ({ name := declared.2, edges := (node n children).gather (Rule.edgesAt rules)
          (some (entry.2 :: declared.1)) } : ClassRecord)) = entry.1.attributed rules := by
    intro entry member
    simp only [gather_child _ (List.mem_zipIdx_iff_getElem?.mp member), attributed]
  rw [attributed, declaring_node, List.map_append, List.map_flatMap]
  simp only [List.map_map, Function.comp_def]
  rw [List.flatMap_congr below, flatMap_zipIdx_fst]
  cases declares : n.declares with
  | none => rfl
  | some name => simp [gather_self _ declares]

theorem opened_run_all {rules : List Rule} {ts : List ResolvedTree}
    (each : ∀ t ∈ ts, ∀ r : Recorder, (r.run (t.events rules)).opened = r.opened) (r : Recorder) :
    (r.run (ts.flatMap (events rules))).opened = r.opened := by
  induction ts generalizing r with
  | nil => rfl
  | cons t ts ih =>
    have rest := ih fun u member => each u (List.mem_cons_of_mem t member)
    rw [List.flatMap_cons, Recorder.run_append, rest, each t List.mem_cons_self]

/-- A walk leaves the open classes as it found them. -/
theorem opened_run_events (rules : List Rule) (t : ResolvedTree) (r : Recorder) :
    (r.run (t.events rules)).opened = r.opened := by
  induction t using Tree.induction generalizing r with
  | node n children ih =>
    have inside (r : Recorder) : ((r.run (rules.flatMap (·.events (node n children)))).run
        (children.flatMap (events rules))).opened = r.opened :=
      (opened_run_all ih _).trans (Recorder.opened_run_flat (Rule.events_flat rules _) r)
    rw [events_node, Recorder.run_append, Recorder.run_append, Recorder.run_append]
    cases n.declares with
    | none => exact inside r
    | some name => exact congrArg List.tail (inside (r.step (.enter name)))

/-- The classes behind a walk: the innermost open class is charged with the edges that have no owner
in the tree, and the classes of the tree follow. -/
def Recorded (rules : List Rule) (t : ResolvedTree) : Prop :=
  ∀ r : Recorder, r.InRange → (r.run (t.events rules)).classes =
    r.charged (t.gather (Rule.edgesAt rules) none) ++ t.attributed rules

theorem recorded_all {rules : List Rule} {ts : List ResolvedTree}
    (each : ∀ t ∈ ts, t.Recorded rules) {r : Recorder} (inRange : r.InRange) :
    (r.run (ts.flatMap (events rules))).classes =
      r.charged (ts.flatMap (gather (Rule.edgesAt rules) · none)) ++
        ts.flatMap (attributed rules) := by
  induction ts generalizing r with
  | nil => simp [Recorder.run, Recorder.charged_nil]
  | cons t ts ih =>
    have opened := opened_run_events rules t r
    have classes := each t List.mem_cons_self r inRange
    have inRange' : (r.run (t.events rules)).InRange := by
      intro place member
      rw [classes, List.length_append, Recorder.charged_length]
      exact Nat.lt_add_right _ (inRange place (opened ▸ member))
    have rest := ih (fun u member => each u (List.mem_cons_of_mem t member)) inRange'
    rw [Recorder.charged_again inRange opened classes] at rest
    rw [List.flatMap_cons, Recorder.run_append, rest, List.flatMap_cons, List.flatMap_cons,
      List.append_assoc]

theorem recorded (rules : List Rule) (t : ResolvedTree) : t.Recorded rules := by
  induction t using Tree.induction with
  | node n children ih =>
    intro r inRange
    have inside {s : Recorder} (sRange : s.InRange) :
        ((s.run (rules.flatMap (·.events (node n children)))).run
          (children.flatMap (events rules))).classes =
            s.charged (Rule.edgesAt rules (node n children) ++
              children.flatMap (gather (Rule.edgesAt rules) · none)) ++
                children.flatMap (attributed rules) := by
      have flat := Rule.events_flat rules (node n children)
      have opened := Recorder.opened_run_flat flat s
      have classes := Recorder.classes_run_flat flat sRange
      have range : (s.run (rules.flatMap (·.events (node n children)))).InRange := by
        intro place member
        rw [classes, Recorder.charged_length]
        exact sRange place (opened ▸ member)
      rw [recorded_all ih range,
        Recorder.charged_again sRange opened (classes.trans (List.append_nil _).symm),
        List.append_nil]
      rfl
    rw [events_node, Recorder.run_append, Recorder.run_append, Recorder.run_append, attributed_node]
    cases declares : n.declares with
    | none =>
      rw [gather_none _ declares]
      exact inside inRange
    | some name =>
      rw [gather_none_of_declares _ declares, Recorder.charged_nil]
      refine (inside (inRange.enter name)).trans ?_
      rw [Recorder.charged_enter, List.append_assoc]
      rfl

theorem classes_run_events (rules : List Rule) (t : ResolvedTree) :
    (Recorder.run {} (t.events rules)).classes = t.attributed rules := by
  have start : Recorder.InRange {} := by
    intro place member
    cases member
  exact recorded rules t {} start

end Tree

theorem Recorder.classes_finish (r : Recorder) (path : Pathname) (countsImports : Bool) :
    (r.finish path countsImports).classes = r.classes.map fun c =>
      { c with edges := c.edges ++ if countsImports then r.imports else [] } := by
  cases countsImports <;> simp [finish]

theorem FileRecord.classes_eq_attributed (rules : List Rule) (path : Pathname)
    (countsImports : Bool) (t : SyntaxTree) :
    (ofTree rules path countsImports t).classes = (t.resolve.attributed rules).map fun c =>
      { c with edges := c.edges ++
          if countsImports then (ofTree rules path countsImports t).imports else [] } := by
  rw [ofTree, ofEvents, Recorder.classes_finish, Tree.classes_run_events]
  rfl

theorem FileRecord.names_classes (rules : List Rule) (path : Pathname) (countsImports : Bool)
    (t : SyntaxTree) : (ofTree rules path countsImports t).classes.map (·.name) =
      t.resolve.declaring.map (·.2) := by
  rw [classes_eq_attributed, Tree.attributed, List.map_map, List.map_map]
  rfl

theorem FileRecord.length_classes (rules : List Rule) (path : Pathname) (countsImports : Bool)
    (t : SyntaxTree) :
    (ofTree rules path countsImports t).classes.length = t.resolve.declaring.length := by
  rw [classes_eq_attributed, List.length_map, Tree.attributed, List.length_map]

/-- The class at an index, and its edges without the counted imports. -/
theorem FileRecord.getElem?_classes (rules : List Rule) (path : Pathname) (countsImports : Bool)
    (t : SyntaxTree) {i : Nat} {p : Place} {name : String}
    (declared : t.resolve.declaring[i]? = some (p, name)) :
    ∃ c, (ofTree rules path countsImports t).classes[i]? = some c ∧ c.name = name ∧
      c.edges.filter (·.kind ≠ .importStatement) =
        t.resolve.gather (Rule.edgesAt rules) (some p) := by
  have apart := Tree.events_importsApart rules t.resolve
  have attributed : (t.resolve.attributed rules)[i]? =
      some ⟨name, t.resolve.gather (Rule.edgesAt rules) (some p)⟩ := by
    rw [Tree.attributed, List.getElem?_map, declared]
    rfl
  rw [classes_eq_attributed, List.getElem?_map, attributed]
  refine ⟨_, rfl, rfl, ?_⟩
  rw [List.filter_append]
  have own : (t.resolve.gather (Rule.edgesAt rules) (some p)).filter (·.kind ≠ .importStatement) =
      t.resolve.gather (Rule.edgesAt rules) (some p) := by
    refine List.filter_eq_self.mpr fun e member => decide_eq_true ?_
    have inClasses := List.mem_of_getElem? attributed
    rw [← Tree.classes_run_events] at inClasses
    exact apart.own _ inClasses e member
  have counted : (if countsImports then (ofTree rules path countsImports t).imports else []).filter
      (·.kind ≠ .importStatement) = [] := by
    refine List.filter_eq_nil_iff.mpr fun e member => ?_
    split at member
    · simpa using apart.imported e member
    · cases member
  rw [own, counted, List.append_nil]

/-- A file has one class for each node that declares one, in preorder, with the edges recorded at
the nodes that this node owns; nodes without an owner leave no edge, and an anonymous class adds to
the class around it. A walk through any part of the tree leaves the open classes as it found them. -/
theorem FileRecord.classes_ofTree (rules : List Rule) (path : Pathname) (countsImports : Bool)
    (t : SyntaxTree) :
    let file := FileRecord.ofTree rules path countsImports t
    file.classes = (t.resolve.declaring.map fun declared =>
      { name := declared.2
        edges := t.resolve.gather (Rule.edgesAt rules) (some declared.1) ++
          if countsImports then file.imports else [] }) ∧
    (∀ u, ∀ e ∈ Rule.edgesAt rules u, e ∉ file.imports) ∧
    (∀ declared ∈ t.resolve.declaring, ∃ u form, t.resolve.at? declared.1 = some u ∧
      u.value.kind = .declaration form ∧ u.value.declares = some declared.2) ∧
    (∀ p i below u, t.resolve.at? (p ++ [i]) = some u → u.value.kind = .anonymousClass →
      (∀ q, q <+: below → q ≠ [] → t.resolve.declaredAt (p ++ [i] ++ q) = none) →
      t.resolve.owner? (p ++ [i] ++ below) = t.resolve.owner? p) ∧
    ∀ (u : ResolvedTree) (r : Recorder), (r.run (u.events rules)).opened = r.opened := by
  refine ⟨?_, ?_, ?_, ?_, Tree.opened_run_events rules⟩
  · rw [classes_eq_attributed, Tree.attributed, List.map_map]
    rfl
  · intro u e recorded imported
    exact Rule.kind_of_edgesAt recorded
      ((Tree.events_importsApart rules t.resolve).imported e imported)
  · intro declared member
    obtain ⟨p, -, named⟩ := List.mem_filterMap.mp member
    obtain ⟨name, declares, rfl⟩ := Option.map_eq_some_iff.mp named
    obtain ⟨u, here, declares⟩ := Option.bind_eq_some_iff.mp declares
    obtain ⟨form, kind⟩ := Tree.declaration_of_declares here declares
    exact ⟨u, form, here, kind, declares⟩
  · intro p i below u here kind undeclared
    have own : t.resolve.declaredAt (p ++ [i]) = none := by
      rw [Tree.declaredAt, here, Option.bind_some]
      exact Tree.undeclared_of_kind here (by rw [kind]; rfl)
    rw [Tree.owner?_append undeclared, Tree.owner?_concat, own, if_neg (by simp)]

/-- A class that extends another one, uses a trait, takes a parameter with a type that has a type
inside, makes an object of an anonymous class that implements an interface and makes an object in
turn, and tests for a class. -/
def Tree.sampleClass : SyntaxTree :=
  let word (row : Nat) (text : String) (field : Option Field) : SyntaxTree :=
    .node { kind := .name .simple, row, text, field } []
  .node { kind := .other "program" }
    [.node { kind := .declaration .plain, row := 1 }
      [word 1 "A" (some .name),
       .node { kind := .clause .parents, row := 1 } [word 1 "B" none],
       .node { kind := .other "declaration_list", row := 1, field := some .body }
        [.node { kind := .clause .traits, row := 2 } [word 2 "T" none],
         .node { kind := .method, row := 3 }
          [.node { kind := .typeExpression .nullable, row := 3, text := "?P" }
            [.node { kind := .typeExpression .named, row := 3, text := "P" } [word 3 "P" none]],
           .node { kind := .creation, row := 4 }
            [.node { kind := .anonymousClass, row := 4 }
              [.node { kind := .clause .interfaces, row := 4 } [word 4 "I" none],
               .node { kind := .creation, row := 5 } [word 5 "Q" none]]],
           .node { kind := .binary, row := 6 }
            [.node { kind := .creation, row := 6 } [word 6 "S" none],
             .node { kind := .other "instanceof", row := 6, named := false,
                     field := some .operator } [],
             word 7 "R" (some .right)]]]]]

theorem FileRecord.classes_ofTree_sampleClass :
    Tree.sampleClass.resolve.declaring = [([0], "A")] ∧
      Tree.sampleClass.resolve.owner? ([0, 2, 1, 1] ++ [0] ++ [1]) =
        Tree.sampleClass.resolve.owner? [0, 2, 1, 1] ∧
      (ofTree Rule.standard ⟨"A.php"⟩ false Tree.sampleClass).classes =
        [{ name := "A"
           edges := Tree.sampleClass.resolve.gather (Rule.edgesAt Rule.standard) (some [0]) ++
             [] }] := by
  have declaring : Tree.sampleClass.resolve.declaring = [([0], "A")] := by decide +kernel
  obtain ⟨classes, -, -, anonymous, -⟩ :=
    classes_ofTree Rule.standard ⟨"A.php"⟩ false Tree.sampleClass
  refine ⟨declaring, anonymous [0, 2, 1, 1] 0 [1] _ rfl rfl ?_, ?_⟩
  · intro q shorter nonempty
    have whole : q = [1] := shorter.eq_of_length_le (List.length_pos_iff.mpr nonempty)
    rw [whole]
    decide +kernel
  · rw [classes, declaring]
    rfl

end ClassGraph
