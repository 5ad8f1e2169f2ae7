import Mathlib.Data.List.DropRight
import Mathlib.Data.List.Perm.Subperm
import Mathlib.Logic.Relation
import ClassGraph.Proofs.PositionIndex

namespace ClassGraph

namespace CodeMap

/-- Whether the first class of a name has an ancestral edge to a target. -/
def Leads (m : CodeMap) (name target : String) : Prop :=
  ∃ c, m.class? name = some c ∧ target ∈ ancestralTargets c

theorem nextNames_eq (m : CodeMap) (name : String) :
    m.nextNames m.index name = ((m.class? name).map ancestralTargets).getD [] := by
  rw [nextNames, class?, find?]
  cases m.lookUp? m.index name <;> rfl

theorem mem_nextNames {m : CodeMap} {name target : String} :
    target ∈ m.nextNames m.index name ↔ m.Leads name target := by
  rw [nextNames_eq, Leads]
  cases m.class? name with
  | none => simp
  | some c => simp

theorem Leads.target_mem {m : CodeMap} {name target : String} (leads : m.Leads name target) :
    target ∈ m.classes.flatMap ancestralTargets := by
  obtain ⟨c, found, member⟩ := leads
  rw [class?_eq_find?] at found
  exact List.mem_flatMap.mpr ⟨c, List.mem_of_find?_eq_some found, member⟩

namespace Found

/-- The two forms of what was found agree, and nothing was found twice. -/
structure Consistent (found : Found) : Prop where
  known : ∀ name, found.known.contains name = true ↔ name ∈ found.names
  nodup : found.names.Nodup

theorem Consistent.add {found : Found} (consistent : found.Consistent) {name : String}
    (isNew : name ∉ found.names) :
    Consistent { names := name :: found.names, known := found.known.insert name } := by
  refine ⟨?_, List.nodup_cons.mpr ⟨isNew, consistent.nodup⟩⟩
  intro other
  rw [Std.HashSet.contains_insert, Bool.or_eq_true, consistent.known, beq_iff_eq, List.mem_cons,
    eq_comm]

/-- Adding several names puts those among them that were not found before in front of the others, and
at the end of the queue. -/
theorem foldl_add {found : Found} (consistent : found.Consistent) (names queue : List String) :
    ∃ new, (names.foldl add (found, queue)).1.names = new.reverse ++ found.names ∧
      (names.foldl add (found, queue)).2 = queue ++ new ∧
      (names.foldl add (found, queue)).1.Consistent ∧
      ∀ name, name ∈ new ↔ name ∈ names ∧ name ∉ found.names := by
  induction names generalizing found queue with
  | nil => exact ⟨[], rfl, (List.append_nil _).symm, consistent, by simp⟩
  | cons name names ih =>
    rw [List.foldl_cons]
    by_cases old : name ∈ found.names
    · have skipped : add (found, queue) name = (found, queue) := by
        simp [add, (consistent.known name).mpr old]
      obtain ⟨new, inNames, inQueue, kept, members⟩ := ih consistent queue
      rw [skipped]
      refine ⟨new, inNames, inQueue, kept, ?_⟩
      intro other
      rw [members, List.mem_cons]
      constructor
      · rintro ⟨listed, unseen⟩
        exact ⟨.inr listed, unseen⟩
      · rintro ⟨rfl | listed, unseen⟩
        · exact absurd old unseen
        · exact ⟨listed, unseen⟩
    · have unknown : found.known.contains name = false :=
        Bool.eq_false_iff.mpr fun known => old ((consistent.known name).mp known)
      have added : add (found, queue) name =
          ({ names := name :: found.names, known := found.known.insert name }, queue ++ [name]) := by
        simp [add, unknown]
      obtain ⟨new, inNames, inQueue, kept, members⟩ := ih (consistent.add old) (queue ++ [name])
      rw [added]
      refine ⟨name :: new, ?_, ?_, kept, ?_⟩
      · rw [inNames, List.reverse_cons, List.append_assoc, List.singleton_append]
      · rw [inQueue, List.append_assoc, List.singleton_append]
      · intro other
        rw [List.mem_cons, members, List.mem_cons, List.mem_cons]
        by_cases same : other = name
        · subst same
          simp [old]
        · simp [same]

section Levels

/-- The search told level by level: what the names of a level lead to for the first time is the next
level. -/
def levels (next : String → List String) : (fuel : Nat) → (level : List String) → Found → Found
  | 0, _, found => found
  | _, [], found => found
  | fuel + 1, level, found =>
    let (found, fresh) := (level.flatMap next).foldl add (found, [])
    levels next fuel fresh found

theorem levels_nil (next : String → List String) (fuel : Nat) (found : Found) :
    levels next fuel [] found = found := by
  cases fuel <;> rfl

theorem levels_cons (next : String → List String) (fuel : Nat) (first : String) (rest : List String)
    (found : Found) : levels next (fuel + 1) (first :: rest) found =
      levels next fuel (((first :: rest).flatMap next).foldl add (found, [])).2
        (((first :: rest).flatMap next).foldl add (found, [])).1 :=
  rfl

theorem search_nil (next : String → List String) (fuel : Nat) (found : Found) :
    search next fuel [] found = found := by
  cases fuel <;> rfl

/-- What waits in the queue does not touch what is added behind it. -/
theorem foldl_add_append (names : List String) (found : Found) (front queue : List String) :
    names.foldl add (found, front ++ queue) =
      ((names.foldl add (found, queue)).1, front ++ (names.foldl add (found, queue)).2) := by
  induction names generalizing found queue with
  | nil => rfl
  | cons name names ih =>
    rw [List.foldl_cons, List.foldl_cons]
    by_cases known : found.known.contains name = true
    · simp only [add, known, if_true, ih]
    · simp only [add, if_neg known, List.append_assoc, ih]

/-- When a level at the head of the queue has been taken, what it leads to for the first time has been
put behind the rest. -/
theorem search_append (next : String → List String) (fuel : Nat) (level queue : List String)
    (found : Found) : search next (fuel + level.length) (level ++ queue) found =
      search next fuel ((level.flatMap next).foldl add (found, queue)).2
        ((level.flatMap next).foldl add (found, queue)).1 := by
  induction level generalizing queue found with
  | nil => rfl
  | cons name level ih =>
    have taken : search next (fuel + level.length + 1) (name :: (level ++ queue)) found =
        search next (fuel + level.length) ((next name).foldl add (found, level ++ queue)).2
          ((next name).foldl add (found, level ++ queue)).1 := rfl
    rw [List.length_cons, ← Nat.add_assoc, List.cons_append, taken, foldl_add_append, ih,
      List.flatMap_cons, List.foldl_append]

end Levels

variable {next : String → List String} {start : String}

/-- The invariant of the levels: whatever was found can be reached, and all that a found name or the
start leads to has been found, unless the name is one of the present level. -/
structure Searching (next : String → List String) (start : String) (level : List String)
    (found : Found) : Prop where
  consistent : found.Consistent
  reached : ∀ name ∈ found.names, Relation.TransGen (fun x y => y ∈ next x) start name
  pending : ∀ name ∈ level, name = start ∨ name ∈ found.names
  closed : ∀ name, name = start ∨ name ∈ found.names → name ∉ level →
    ∀ target ∈ next name, target ∈ found.names

theorem Searching.initial (next : String → List String) (start : String) :
    Searching next start [start] {} := by
  refine ⟨⟨by simp, List.nodup_nil⟩, by simp, ?_, ?_⟩
  · intro name member
    exact .inl (List.mem_singleton.mp member)
  · rintro name (rfl | found) outside
    · exact absurd (List.mem_singleton.mpr rfl) outside
    · cases found

/-- One level of the search. It keeps the invariant, and it finds a new name or is the last level. -/
theorem Searching.step {level : List String} {found : Found}
    (searching : Searching next start level found) :
    let stepped := (level.flatMap next).foldl add (found, [])
    Searching next start stepped.2 stepped.1 ∧
      stepped.1.names.length = found.names.length + stepped.2.length := by
  intro stepped
  obtain ⟨new, inNames, inFresh, consistent, members⟩ :=
    foldl_add searching.consistent (level.flatMap next) []
  have fresh : stepped.2 = new := by rw [inFresh, List.nil_append]
  have names (name : String) : name ∈ stepped.1.names ↔ name ∈ new ∨ name ∈ found.names := by
    rw [inNames, List.mem_append, List.mem_reverse]
  have known (target : String) (led : target ∈ level.flatMap next) : target ∈ stepped.1.names := by
    rw [names, members]
    by_cases old : target ∈ found.names
    · exact .inr old
    · exact .inl ⟨led, old⟩
  refine ⟨⟨consistent, ?_, ?_, ?_⟩, ?_⟩
  · intro name member
    rcases (names name).mp member with isNew | old
    · obtain ⟨last, inLevel, led⟩ := List.mem_flatMap.mp ((members name).mp isNew).1
      rcases searching.pending last inLevel with rfl | before
      · exact .single led
      · exact (searching.reached last before).tail led
    · exact searching.reached name old
  · intro name member
    exact .inr ((names name).mpr (.inl (fresh ▸ member)))
  · intro name isFound outside target led
    rw [fresh] at outside
    by_cases inLevel : name ∈ level
    · exact known target (List.mem_flatMap.mpr ⟨name, inLevel, led⟩)
    · have earlier : name = start ∨ name ∈ found.names := by
        rw [names] at isFound
        rcases isFound with isStart | isNew | old
        · exact .inl isStart
        · exact absurd isNew outside
        · exact .inr old
      exact (names target).mpr (.inr (searching.closed name earlier inLevel target led))
  · rw [inNames, fresh, List.length_append, List.length_reverse, Nat.add_comm]

/-- Names are found once, so there are no more of them than targets. -/
theorem Searching.length_le {level : List String} {found : Found}
    (searching : Searching next start level found) {targets : List String}
    (among : ∀ name, ∀ target ∈ next name, target ∈ targets) :
    found.names.length ≤ targets.length := by
  refine (searching.consistent.nodup.subperm fun name member => ?_).length_le
  obtain ⟨last, -, led⟩ := Relation.TransGen.tail'_iff.mp (searching.reached name member)
  exact among last name led

/-- With fuel for one level more than there are names left to find, the levels end with no name whose
targets are still to be looked at. A search along the queue finds the same in the same order; it takes
every name once, those of the level and those that are left to find. -/
theorem Searching.levels {level : List String} {found : Found}
    (searching : Searching next start level found) {targets : List String}
    (among : ∀ name, ∀ target ∈ next name, target ∈ targets) (fuel : Nat)
    (enough : targets.length < fuel + found.names.length) :
    Searching next start [] (levels next fuel level found) ∧
      ∀ steps, level.length + targets.length ≤ steps + found.names.length →
        search next steps level found = Found.levels next fuel level found := by
  induction fuel generalizing level found with
  | zero =>
    have bound := searching.length_le among
    omega
  | succ fuel ih =>
    cases level with
    | nil => exact ⟨searching, fun steps _ => search_nil next steps found⟩
    | cons first rest =>
      obtain ⟨later, size⟩ := searching.step
      have bound := later.length_le among
      have taken (steps : Nat) (long : (first :: rest).length ≤ steps) :
          search next steps (first :: rest) found =
            search next (steps - (first :: rest).length)
              (((first :: rest).flatMap next).foldl add (found, [])).2
              (((first :: rest).flatMap next).foldl add (found, [])).1 := by
        have split := search_append next (steps - (first :: rest).length) (first :: rest) [] found
        rwa [Nat.sub_add_cancel long, List.append_nil] at split
      rw [levels_cons]
      by_cases last : (((first :: rest).flatMap next).foldl add (found, [])).2 = []
      · rw [last] at later
        rw [last, levels_nil]
        refine ⟨later, fun steps long => ?_⟩
        have before := searching.length_le among
        rw [taken steps (by omega), last, search_nil]
      · have grown := List.length_pos_iff.mpr last
        obtain ⟨ended, same⟩ := ih later (by omega)
        refine ⟨ended, fun steps long => ?_⟩
        rw [taken steps (by omega)]
        exact same _ (by omega)

theorem Searching.mem_iff {found : Found} (searching : Searching next start [] found)
    {name : String} :
    name ∈ found.names ↔ Relation.TransGen (fun x y => y ∈ next x) start name := by
  refine ⟨searching.reached name, ?_⟩
  intro reached
  induction reached with
  | single led => exact searching.closed start (.inl rfl) List.not_mem_nil _ led
  | tail _ led before => exact searching.closed _ (.inr before) List.not_mem_nil _ led

end Found

/-- The search for the ancestors of a name ends before its fuel does, with what the levels find. -/
theorem search_ends (m : CodeMap) (start : String) :
    let bound := (m.classes.flatMap ancestralTargets).length + 1
    let ended := Found.levels (m.nextNames m.index) bound [start] {}
    Found.Searching (m.nextNames m.index) start [] ended ∧
      ∀ fuel, bound ≤ fuel → Found.search (m.nextNames m.index) fuel [start] {} = ended := by
  intro bound ended
  obtain ⟨closed, same⟩ := (Found.Searching.initial (m.nextNames m.index) start).levels
    (fun _ _ led => (mem_nextNames.mp led).target_mem) bound (Nat.lt_succ_self _)
  refine ⟨closed, fun fuel enough => same fuel ?_⟩
  rw [List.length_singleton, Nat.add_comm]
  exact enough

theorem ancestors_eq_levels (m : CodeMap) (name : String) : m.ancestors name =
    (Found.levels (m.nextNames m.index) ((m.classes.flatMap ancestralTargets).length + 1)
      [dropLeadingBackslashes name] {}).names.reverse := by
  rw [ancestors, (m.search_ends _).2 _ (Nat.le_refl _)]

theorem dropLeadingBackslashes_twice (name : String) :
    dropLeadingBackslashes (dropLeadingBackslashes name) = dropLeadingBackslashes name := by
  simp only [dropLeadingBackslashes, String.toList_ofList, List.dropWhile_idempotent]

theorem leads_dropLeadingBackslashes {m : CodeMap} {name target : String} :
    m.Leads (dropLeadingBackslashes name) target ↔ m.Leads name target := by
  simp only [Leads, class?_eq_find?, dropLeadingBackslashes_twice]

theorem transGen_dropLeadingBackslashes {m : CodeMap} {name target : String} :
    Relation.TransGen m.Leads (dropLeadingBackslashes name) target ↔
      Relation.TransGen m.Leads name target := by
  simp only [Relation.TransGen.head'_iff, leads_dropLeadingBackslashes]

/-- The ancestors of a name are the names that it leads to in one step or more. -/
theorem mem_ancestors {m : CodeMap} {name target : String} :
    target ∈ m.ancestors name ↔ Relation.TransGen m.Leads name target := by
  rw [ancestors_eq_levels, List.mem_reverse, (m.search_ends _).1.mem_iff,
    ← transGen_dropLeadingBackslashes]
  simp only [mem_nextNames]

end CodeMap

end ClassGraph
