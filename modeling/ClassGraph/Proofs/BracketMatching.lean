import ClassGraph.Proofs.StoredRoundTrip

namespace ClassGraph

namespace Event

def entered? : Event → Option String
  | .enter name => some name
  | _ => none

/-- The names of the classes that are entered, in order. -/
def entered (events : List Event) : List String :=
  events.filterMap entered?

/-- Events in which every enter has its leave and every leave its enter. -/
inductive Balanced : List Event → Prop
  | nil : Balanced []
  | flat {event : Event} {rest : List Event} (isFlat : Recorder.IsFlat event)
      (balanced : Balanced rest) : Balanced (event :: rest)
  | nested (name : String) {inside rest : List Event} (balancedInside : Balanced inside)
      (balanced : Balanced rest) : Balanced (.enter name :: (inside ++ .leave :: rest))

/-- The events behind an enter hold the leave that matches it. -/
def IsMatched (rest : List Event) : Prop :=
  ∃ inside after, rest = inside ++ .leave :: after ∧ Balanced inside

/-- The enter at a place, counted among the enters, is not yet matched by a leave. -/
def IsOpen (events : List Event) (place : Nat) : Prop :=
  ∃ before name rest, events = before ++ .enter name :: rest ∧ (entered before).length = place ∧
    ¬IsMatched rest

/-- The last enter that is not yet matched by a leave. -/
def IsInnermost (events : List Event) (place : Nat) : Prop :=
  IsOpen events place ∧ ∀ other, IsOpen events other → other ≤ place

theorem entered_append (first second : List Event) :
    entered (first ++ second) = entered first ++ entered second :=
  List.filterMap_append

theorem entered_cons (event : Event) (events : List Event) :
    entered (event :: events) = entered [event] ++ entered events :=
  entered_append [event] events

theorem exists_enter {events : List Event} {place : Nat} (bound : place < (entered events).length) :
    ∃ before name rest, events = before ++ .enter name :: rest ∧
      (entered before).length = place := by
  induction events generalizing place with
  | nil => cases bound
  | cons event events ih =>
    have later {place : Nat} (bound : place < (entered events).length) {shifted : Nat}
        (shift : (entered [event]).length + place = shifted) :
        ∃ before name rest, event :: events = before ++ .enter name :: rest ∧
          (entered before).length = shifted := by
      obtain ⟨before, name, rest, rfl, rfl⟩ := ih bound
      refine ⟨event :: before, name, rest, rfl, ?_⟩
      rw [entered_cons, List.length_append, shift]
    cases event with
    | enter name =>
      cases place with
      | zero => exact ⟨[], name, events, rfl, rfl⟩
      | succ place => exact later (Nat.lt_of_succ_lt_succ bound) (Nat.add_comm _ _)
    | leave => exact later bound (Nat.zero_add _)
    | edge e => exact later bound (Nat.zero_add _)
    | use target line => exact later bound (Nat.zero_add _)

theorem IsMatched.flat {event : Event} {rest : List Event} (isFlat : Recorder.IsFlat event)
    (matched : IsMatched rest) : IsMatched (event :: rest) := by
  obtain ⟨inside, after, rfl, balanced⟩ := matched
  exact ⟨event :: inside, after, rfl, .flat isFlat balanced⟩

end Event

namespace Recorder

open Event

theorem opened_step_flat {event : Event} (flat : IsFlat event) (r : Recorder) :
    (r.step event).opened = r.opened := by
  have single : ∀ other ∈ [event], IsFlat other := by
    intro other member
    rwa [List.mem_singleton.mp member]
  exact opened_run_flat single r

theorem length_classes_step (r : Recorder) (event : Event) :
    (r.step event).classes.length = r.classes.length + (entered [event]).length := by
  cases event with
  | enter name => exact List.length_append
  | leave => rfl
  | edge e =>
    rw [step]
    split
    · rfl
    · exact List.length_modify _ _ _
  | use target line => rfl

theorem length_classes_run (r : Recorder) (events : List Event) :
    (r.run events).classes.length = r.classes.length + (entered events).length := by
  induction events generalizing r with
  | nil => rfl
  | cons event events ih =>
    have rest : (r.run (event :: events)).classes.length = _ := ih (r.step event)
    rw [rest, length_classes_step, entered_cons event events, List.length_append, Nat.add_assoc]

theorem InRange.run {r : Recorder} (inRange : r.InRange) (events : List Event) :
    (r.run events).InRange := by
  induction events generalizing r with
  | nil => exact inRange
  | cons event events ih => exact ih (inRange.step event)

theorem inRange_run (events : List Event) : (run {} events).InRange :=
  (InRange.of_closed rfl).run events

theorem opened_run_left {inside : List Event}
    (keeps : ∀ r : Recorder, (r.run inside).opened = r.opened) (r : Recorder) :
    (r.run (inside ++ [.leave])).opened = r.opened.tail := by
  rw [run_append]
  exact congrArg List.tail (keeps r)

theorem opened_run_balanced {events : List Event} (balanced : Balanced events) (r : Recorder) :
    (r.run events).opened = r.opened := by
  induction balanced generalizing r with
  | nil => rfl
  | flat isFlat _ ih => exact (ih _).trans (opened_step_flat isFlat r)
  | @nested name inside rest _ _ insideIH ih =>
    have left : (r.run ([.enter name] ++ (inside ++ [.leave]))).opened = r.opened :=
      opened_run_left insideIH (r.step (.enter name))
    have split : Event.enter name :: (inside ++ .leave :: rest) =
        ([.enter name] ++ (inside ++ [.leave])) ++ rest := by simp
    rw [split, run_append, ih, left]

/-- Events that do not leave the class around them keep all that is open below them. -/
theorem matched_or_suffix (events : List Event) :
    IsMatched events ∨ ∀ r : Recorder, r.opened <:+ (r.run events).opened := by
  match events with
  | [] => exact .inr fun r => List.suffix_rfl
  | .leave :: rest => exact .inl ⟨[], rest, rfl, .nil⟩
  | .edge e :: rest =>
    have isFlat : IsFlat (.edge e) := .inl ⟨e, rfl⟩
    refine (matched_or_suffix rest).imp (·.flat isFlat) fun keeps r => ?_
    exact opened_step_flat isFlat r ▸ keeps (r.step (.edge e))
  | .use target line :: rest =>
    have isFlat : IsFlat (.use target line) := .inr ⟨target, line, rfl⟩
    refine (matched_or_suffix rest).imp (·.flat isFlat) fun keeps r => ?_
    exact keeps (r.step (.use target line))
  | .enter name :: rest =>
    rcases matched_or_suffix rest with ⟨inside, after, split, balanced⟩ | keeps
    · -- The class entered here is left again, and the rest is judged from there.
      have shorter : after.length < rest.length := by
        rw [split, List.length_append, List.length_cons]
        omega
      rcases matched_or_suffix after with ⟨inside', after', split', balanced'⟩ | keeps
      · refine .inl ⟨.enter name :: (inside ++ .leave :: inside'), after', ?_, ?_⟩
        · simp [split, split']
        · exact .nested name balanced balanced'
      · refine .inr fun r => ?_
        have whole : Event.enter name :: rest =
            (.enter name :: (inside ++ .leave :: [])) ++ after := by simp [split]
        have left := opened_run_balanced (.nested name balanced .nil) r
        rw [whole, run_append, ← left]
        exact keeps _
    · exact .inr fun r => (List.suffix_cons _ _).trans (keeps (r.step (.enter name)))
termination_by events.length

/-- A class that is open was open before or is entered meanwhile. -/
theorem mem_opened_run {r : Recorder} {events : List Event} {place : Nat}
    (opened : place ∈ (r.run events).opened) : place ∈ r.opened ∨ r.classes.length ≤ place := by
  induction events generalizing r with
  | nil => exact .inl opened
  | cons event events ih =>
    have grown := length_classes_step r event
    rcases ih opened with before | later
    · cases event with
      | enter name =>
        rcases List.mem_cons.mp before with rfl | older
        · exact .inr (Nat.le_refl _)
        · exact .inl older
      | leave => exact .inl (List.mem_of_mem_tail before)
      | edge e => exact .inl (opened_step_flat (.inl ⟨e, rfl⟩) r ▸ before)
      | use target line => exact .inl before
    · exact .inr (by omega)

theorem mem_opened_of_enter (before rest : List Event) (name : String) :
    (entered before).length ∈ (run {} (before ++ .enter name :: rest)).opened ↔
      ¬IsMatched rest := by
  have count : (run {} before).classes.length = (entered before).length :=
    (length_classes_run {} before).trans (Nat.zero_add _)
  have split : run {} (before ++ .enter name :: rest) =
      ((run {} before).step (.enter name)).run rest := run_append {} before _
  rw [split, ← count]
  constructor
  · rintro opened ⟨inside, after, rfl, balanced⟩
    rw [← List.singleton_append, ← List.append_assoc, run_append] at opened
    have left : (((run {} before).step (.enter name)).run (inside ++ [.leave])).opened =
        (run {} before).opened :=
      opened_run_left (opened_run_balanced balanced) ((run {} before).step (.enter name))
    have grown := length_classes_run ((run {} before).step (.enter name)) (inside ++ [.leave])
    rw [length_classes_step] at grown
    rcases mem_opened_run opened with below | later
    · rw [left] at below
      exact Nat.lt_irrefl _ (inRange_run before _ below)
    · have one : (entered [.enter name]).length = 1 := rfl
      omega
  · intro unmatched
    rcases matched_or_suffix rest with matched | keeps
    · exact absurd matched unmatched
    · exact (keeps ((run {} before).step (.enter name))).subset List.mem_cons_self

theorem mem_opened_iff {events : List Event} {place : Nat} :
    place ∈ (run {} events).opened ↔ IsOpen events place := by
  constructor
  · intro opened
    have bound : place < (entered events).length := by
      have := inRange_run events place opened
      rwa [length_classes_run, List.length_nil, Nat.zero_add] at this
    obtain ⟨before, name, rest, rfl, rfl⟩ := exists_enter bound
    exact ⟨before, name, rest, rfl, rfl, (mem_opened_of_enter before rest name).mp opened⟩
  · rintro ⟨before, name, rest, rfl, rfl, unmatched⟩
    exact (mem_opened_of_enter before rest name).mpr unmatched

/-- The open classes stand in the order in which they were entered, the last one first. -/
theorem opened_ordered {r : Recorder} (inRange : r.InRange) (ordered : r.opened.Pairwise (· > ·))
    (events : List Event) : (r.run events).opened.Pairwise (· > ·) := by
  induction events generalizing r with
  | nil => exact ordered
  | cons event events ih =>
    refine ih (inRange.step event) ?_
    cases event with
    | enter name => exact List.pairwise_cons.mpr ⟨inRange, ordered⟩
    | leave => exact ordered.sublist (List.tail_sublist _)
    | edge e => rwa [opened_step_flat (.inl ⟨e, rfl⟩)]
    | use target line => exact ordered

theorem head?_opened_iff {events : List Event} {place : Nat} :
    (run {} events).opened.head? = some place ↔ IsInnermost events place := by
  have ordered : (run {} events).opened.Pairwise (· > ·) :=
    opened_ordered (InRange.of_closed rfl) .nil events
  have isOpen : ∀ {other}, IsOpen events other ↔ other ∈ (run {} events).opened :=
    mem_opened_iff.symm
  rw [IsInnermost, isOpen]
  simp only [isOpen]
  generalize (run {} events).opened = opened at ordered
  cases opened with
  | nil => simp
  | cons first others =>
    have smaller := (List.pairwise_cons.mp ordered).1
    rw [List.head?_cons, Option.some.injEq]
    constructor
    · rintro rfl
      refine ⟨List.mem_cons_self, fun other member => ?_⟩
      rcases List.mem_cons.mp member with rfl | later
      · exact Nat.le_refl _
      · exact Nat.le_of_lt (smaller other later)
    · rintro ⟨member, largest⟩
      rcases List.mem_cons.mp member with rfl | later
      · rfl
      · have := smaller place later
        have := largest first List.mem_cons_self
        omega

end Recorder

namespace Event

instance (events : List Event) (place : Nat) : Decidable (IsInnermost events place) :=
  decidable_of_iff _ Recorder.head?_opened_iff

/-- The edges recorded while the class at a place is the innermost open one, in order. -/
def edgesOf (events : List Event) (place : Nat) : List Edge :=
  (List.range events.length).filterMap fun n =>
    if IsInnermost (events.take n) place then events[n]?.bind edge? else none

theorem edgesOf_concat (events : List Event) (event : Event) (place : Nat) :
    edgesOf (events ++ [event]) place =
      edgesOf events place ++ if IsInnermost events place then event.edge?.toList else [] := by
  have before : ∀ n ∈ List.range events.length,
      (if IsInnermost ((events ++ [event]).take n) place then (events ++ [event])[n]?.bind edge?
        else none) =
      if IsInnermost (events.take n) place then events[n]?.bind edge? else none := by
    intro n member
    have bound := List.mem_range.mp member
    rw [List.take_append_of_le_length bound.le, List.getElem?_append_left bound]
  rw [edgesOf, List.length_append, List.length_singleton, List.range_succ, List.filterMap_append,
    List.filterMap_congr before]
  refine congrArg (edgesOf events place ++ ·) ?_
  rw [List.filterMap_cons, List.take_left, List.getElem?_concat_length]
  by_cases innermost : IsInnermost events place
  · simp only [if_pos innermost, Option.bind_some]
    cases event.edge? <;> rfl
  · simp only [if_neg innermost, List.filterMap_nil]

theorem edgesOf_concat_of_none {event : Event} (recordsNone : event.edge? = none) (events : List Event)
    (place : Nat) : edgesOf (events ++ [event]) place = edgesOf events place := by
  rw [edgesOf_concat, recordsNone, Option.toList_none, ite_self, List.append_nil]

theorem edgesOf_unentered (events : List Event) {place : Nat}
    (unentered : (entered events).length ≤ place) : edgesOf events place = [] := by
  refine List.filterMap_eq_nil_iff.mpr fun n _ => if_neg ?_
  rintro ⟨⟨before, name, rest, taken, rfl, -⟩, -⟩
  have split : events = before ++ .enter name :: (rest ++ events.drop n) := by
    rw [← List.cons_append, ← List.append_assoc, ← taken, List.take_append_drop]
  rw [split, entered_append, entered_cons, List.length_append, List.length_append] at unentered
  have one : (entered [.enter name]).length = 1 := rfl
  omega

end Event

namespace Recorder

open Event

/-- Every entered class, in order, with the edges recorded while it is the innermost open one. -/
theorem classes_run (events : List Event) :
    (run {} events).classes =
      (entered events).mapIdx fun place name => ⟨name, edgesOf events place⟩ := by
  induction events using List.reverseRecOn with
  | nil => rfl
  | append_singleton events event ih =>
    have last : (run {} (events ++ [event])).classes = ((run {} events).step event).classes :=
      congrArg classes (run_append {} events [event])
    rw [last, entered_append]
    have unchanged (noEdge : event.edge? = none) (noEnter : entered [event] = []) :
        (run {} events).classes = (entered events ++ entered [event]).mapIdx fun place name =>
          ⟨name, edgesOf (events ++ [event]) place⟩ := by
      rw [noEnter, List.append_nil]
      simpa only [edgesOf_concat_of_none noEdge] using ih
    cases event with
    | enter name =>
      have entersLast : (entered events ++ entered [.enter name]).mapIdx (fun place name =>
          ClassRecord.mk name (edgesOf events place)) =
          (run {} events).classes ++ [⟨name, []⟩] := by
        rw [ih, show entered [.enter name] = [name] from rfl, List.mapIdx_concat,
          edgesOf_unentered events (Nat.le_refl _)]
      have kept := @edgesOf_concat_of_none (.enter name) rfl events
      simp only [kept]
      exact entersLast.symm
    | leave => exact unchanged rfl rfl
    | use target line => exact unchanged rfl rfl
    | edge e =>
      rw [show entered [.edge e] = [] from rfl, List.append_nil]
      have innermost : ∀ {place}, IsInnermost events place ↔ _ := head?_opened_iff.symm
      simp only [edgesOf_concat, innermost]
      rw [step]
      split
      · rename_i closed
        simpa [closed] using ih
      · rename_i first others opened
        rw [ih, opened, List.head?_cons]
        refine List.ext_getElem? fun place => ?_
        rw [List.getElem?_modify, List.getElem?_mapIdx, List.getElem?_mapIdx]
        by_cases own : first = place
        · subst own
          simp [addEdge, Event.edge?, Function.comp_def]
        · simp [own]

/-- With no class open, a leave and an edge do nothing. -/
theorem run_dropped {before : List Event} (closed : ∀ place, ¬IsOpen before place) {event : Event}
    (dropped : event = .leave ∨ ∃ e, event = .edge e) (after : List Event) :
    run {} (before ++ event :: after) = run {} (before ++ after) := by
  have none : (run {} before).opened = [] :=
    List.eq_nil_iff_forall_not_mem.mpr fun place opened => closed place (mem_opened_iff.mp opened)
  have same : (run {} before).step event = run {} before := by
    generalize run {} before = r at none
    obtain ⟨classes, opened, imports⟩ := r
    subst none
    rcases dropped with rfl | ⟨e, rfl⟩ <;> rfl
  rw [run_append, run_append]
  exact congrArg (·.run after) same

end Recorder

/-- The record of any events, balanced or not. No open place is ever beyond the classes, each entered
class has the edges at which it is the innermost open one, what is recorded or left with no class open
counts for nothing, and counted imports stand behind the edges of every class. -/
theorem FileRecord.attributed_by_brackets (path : Pathname) (events : List Event) :
    let file := ofEvents path false events
    (∀ before, before <+: events → (Recorder.run {} before).InRange) ∧
    file.classes =
      (Event.entered events).mapIdx (fun place name => ⟨name, Event.edgesOf events place⟩) ∧
    (∀ before event after, events = before ++ event :: after →
      (∀ place, ¬Event.IsOpen before place) → (event = .leave ∨ ∃ e, event = .edge e) →
      ofEvents path false (before ++ after) = file) ∧
    file.imports = events.filterMap Event.import? ∧
    ofEvents path true events =
      { file with
        classes := file.classes.map fun c => { c with edges := c.edges ++ file.imports }
        countsImports := true } := by
  intro file
  have classes : file.classes = (Recorder.run {} events).classes := List.map_id _
  refine ⟨?_, ?_, ?_, ?_, ?_⟩
  · exact fun before _ => Recorder.inRange_run before
  · rw [classes, Recorder.classes_run]
  · rintro before event after rfl closed dropped
    exact congrArg (Recorder.finish · path false) (Recorder.run_dropped closed dropped after).symm
  · exact Recorder.imports_run {} events
  · rw [classes]
    rfl

namespace FileRecord

/-- A class within another, behind an edge outside both. -/
def sampleNesting : List Event :=
  [.edge ⟨"Lost", .instantiates, 1⟩, .enter "Outer", .edge ⟨"First", .instantiates, 3⟩,
   .enter "Inner", .edge ⟨"Deep", .instantiates, 5⟩, .leave, .use "Used" 7,
   .edge ⟨"Second", .instantiates, 8⟩, .leave]

/-- A class that is never left. -/
def sampleUnleft : List Event :=
  [.enter "Last", .edge ⟨"Third", .instantiates, 11⟩]

theorem attributed_by_brackets_sampleNesting :
    let events := sampleNesting ++ .leave :: sampleUnleft
    (∀ place, ¬Event.IsOpen sampleNesting place) ∧
    ofEvents ⟨"a"⟩ false (sampleNesting ++ sampleUnleft) = ofEvents ⟨"a"⟩ false events ∧
    (ofEvents ⟨"a"⟩ false events).classes =
      [⟨"Outer", [⟨"First", .instantiates, 3⟩, ⟨"Second", .instantiates, 8⟩]⟩,
       ⟨"Inner", [⟨"Deep", .instantiates, 5⟩]⟩, ⟨"Last", [⟨"Third", .instantiates, 11⟩]⟩] := by
  intro events
  have closed : ∀ place, ¬Event.IsOpen sampleNesting place := by
    intro place isOpen
    cases Recorder.mem_opened_iff.mpr isOpen
  obtain ⟨-, classes, dropped, -⟩ := attributed_by_brackets ⟨"a"⟩ events
  refine ⟨closed, dropped _ .leave _ rfl closed (.inl rfl), ?_⟩
  rw [classes]
  decide

end FileRecord

end ClassGraph
