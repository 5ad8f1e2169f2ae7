import Mathlib.Order.Lattice.Nat
import ClassGraph.Proofs.Ancestry
import ClassGraph.Proofs.CollectorMeaning

namespace ClassGraph

/-- A relation leads from a name to another one in a number of steps. -/
inductive Steps (r : String → String → Prop) (start : String) : Nat → String → Prop
  | start : Steps r start 0 start
  | next {n : Nat} {name target : String} (before : Steps r start n name) (last : r name target) :
      Steps r start (n + 1) target

/-- At least one step and at most so many lead from a name to another one. -/
def Within (r : String → String → Prop) (start : String) (depth : Nat) (target : String) : Prop :=
  ∃ n, 0 < n ∧ n ≤ depth ∧ Steps r start n target

section Steps

variable {r : String → String → Prop} {start name target : String} {depth : Nat}

theorem Within.next {n : Nat} (steps : Steps r start n name) (near : n < depth)
    (last : r name target) : Within r start depth target :=
  ⟨n + 1, Nat.succ_pos n, near, steps.next last⟩

theorem Within.mono {further : Nat} (within : Within r start depth target)
    (le : depth ≤ further) : Within r start further target := by
  obtain ⟨n, positive, bound, steps⟩ := within
  exact ⟨n, positive, bound.trans le, steps⟩

theorem transGen_iff_steps :
    Relation.TransGen r start target ↔ ∃ n, 0 < n ∧ Steps r start n target := by
  constructor
  · intro reached
    induction reached with
    | single led => exact ⟨1, Nat.one_pos, .next .start led⟩
    | tail _ led ih =>
      obtain ⟨n, -, steps⟩ := ih
      exact ⟨n + 1, Nat.succ_pos n, steps.next led⟩
  · rintro ⟨n, positive, steps⟩
    induction steps with
    | start => cases positive
    | @next n name target before last ih =>
      cases before with
      | start => exact .single last
      | next earlier led => exact (ih (Nat.succ_pos _)).tail last

end Steps

namespace CodeMap

namespace Found

variable {next : String → List String} {start : String}

/-- The invariant of the levels of a search. Steps go from a name to what it leads to. -/
structure Levelled (next : String → List String) (start : String) (depth : Nat)
    (level : List String) (found : Found) : Prop where
  consistent : found.Consistent
  reached : ∀ name ∈ level, Steps (fun x y => y ∈ next x) start depth name
  nearer : ∀ name, Steps (fun x y => y ∈ next x) start depth name →
    name ∈ level ∨ ∃ n < depth, Steps (fun x y => y ∈ next x) start n name
  within : ∀ name, name ∈ found.names ↔ Within (fun x y => y ∈ next x) start depth name
  ordered : found.names.Pairwise fun far near => ∀ n,
    Within (fun x y => y ∈ next x) start n far → Within (fun x y => y ∈ next x) start n near

theorem Levelled.initial (next : String → List String) (start : String) :
    Levelled next start 0 [start] {} where
  consistent := ⟨by simp, List.nodup_nil⟩
  reached name member := by
    rw [List.mem_singleton.mp member]
    exact .start
  nearer name steps := by
    cases steps
    exact .inl (List.mem_singleton.mpr rfl)
  within name := by
    refine ⟨fun impossible => absurd impossible List.not_mem_nil, ?_⟩
    rintro ⟨n, positive, bound, -⟩
    omega
  ordered := .nil

/-- One level more. -/
theorem Levelled.step {depth : Nat} {level : List String} {found : Found}
    (levelled : Levelled next start depth level found) :
    let stepped := (level.flatMap next).foldl add (found, [])
    Levelled next start (depth + 1) stepped.2 stepped.1 := by
  intro stepped
  obtain ⟨new, inNames, inFresh, consistent, members⟩ :=
    foldl_add levelled.consistent (level.flatMap next) []
  have names : stepped.1.names = new.reverse ++ found.names := inNames
  have fresh : stepped.2 = new := by rw [inFresh, List.nil_append]
  have reached (name : String) (isNew : name ∈ new) :
      Steps (fun x y => y ∈ next x) start (depth + 1) name := by
    obtain ⟨last, inLevel, led⟩ := List.mem_flatMap.mp ((members name).mp isNew).1
    exact (levelled.reached last inLevel).next led
  -- A name that takes one step more than the level is new, unless it can be had in fewer.
  have known (name : String) (steps : Steps (fun x y => y ∈ next x) start (depth + 1) name) :
      name ∈ new ∨ name ∈ found.names := by
    by_cases old : name ∈ found.names
    · exact .inr old
    · refine .inl ((members name).mpr ⟨?_, old⟩)
      cases steps with
      | @next _ last _ before led =>
        rcases levelled.nearer last before with inLevel | ⟨n, less, fewer⟩
        · exact List.mem_flatMap.mpr ⟨last, inLevel, led⟩
        · exact absurd ((levelled.within name).mpr (.next fewer less led)) old
  have beyond (name : String) (isNew : name ∈ new) (n : Nat)
      (near : Within (fun x y => y ∈ next x) start n name) : depth < n := by
    by_contra atMost
    exact ((members name).mp isNew).2 ((levelled.within name).mpr (near.mono (by omega)))
  rw [fresh]
  refine ⟨consistent, reached, ?_, ?_, ?_⟩
  · intro name steps
    rcases known name steps with isNew | old
    · exact .inl isNew
    · obtain ⟨n, -, bound, fewer⟩ := (levelled.within name).mp old
      exact .inr ⟨n, by omega, fewer⟩
  · intro name
    rw [names, List.mem_append, List.mem_reverse]
    constructor
    · rintro (isNew | old)
      · exact ⟨depth + 1, Nat.succ_pos depth, le_rfl, reached name isNew⟩
      · exact ((levelled.within name).mp old).mono (Nat.le_succ depth)
    · rintro ⟨n, positive, bound, steps⟩
      rcases Nat.lt_or_eq_of_le bound with less | rfl
      · exact .inr ((levelled.within name).mpr ⟨n, positive, by omega, steps⟩)
      · exact known name steps
  · rw [names, List.pairwise_append]
    refine ⟨?_, levelled.ordered, ?_⟩
    · refine List.pairwise_of_forall_mem_list ?_
      intro far isNew near isNewToo n within
      have deep := beyond far (List.mem_reverse.mp isNew) n within
      exact ⟨depth + 1, Nat.succ_pos depth, deep, reached near (List.mem_reverse.mp isNewToo)⟩
    · intro far isNew near old n within
      have deep := beyond far (List.mem_reverse.mp isNew) n within
      exact ((levelled.within near).mp old).mono (by omega)

/-- The invariant holds behind all levels, at some depth. -/
theorem Levelled.levels {depth : Nat} {level : List String} {found : Found}
    (levelled : Levelled next start depth level found) (fuel : Nat) :
    ∃ deeper last, Levelled next start deeper last (levels next fuel level found) := by
  induction fuel generalizing depth level found with
  | zero => exact ⟨depth, level, levelled⟩
  | succ fuel ih =>
    cases level with
    | nil => exact ⟨depth, [], levelled⟩
    | cons first rest =>
      rw [levels_cons]
      exact ih levelled.step

end Found

/-- The least number of steps, one or more, that ancestral edges take from a name to another one. -/
noncomputable def distance (m : CodeMap) (name target : String) : Nat :=
  sInf {n | 0 < n ∧ Steps m.Leads name n target}

theorem distance_le {m : CodeMap} {name near far : String}
    (closer : ∀ n, Within m.Leads name n far → Within m.Leads name n near)
    (reached : Relation.TransGen m.Leads name far) : m.distance name near ≤ m.distance name far := by
  obtain ⟨positive, steps⟩ := Nat.sInf_mem (transGen_iff_steps.mp reached)
  obtain ⟨n, positive', bound, fewer⟩ := closer _ ⟨_, positive, le_rfl, steps⟩
  calc m.distance name near
    _ ≤ n := Nat.sInf_le ⟨positive', fewer⟩
    _ ≤ m.distance name far := bound

theorem leads_eq (m : CodeMap) : (fun x y => y ∈ m.nextNames m.index x) = m.Leads :=
  funext fun _ => funext fun _ => propext mem_nextNames

theorem ancestors_ordered (m : CodeMap) (name : String) :
    let start := dropLeadingBackslashes name
    (m.ancestors name).Nodup ∧
      (m.ancestors name).Pairwise fun near far => m.distance start near ≤ m.distance start far := by
  intro start
  obtain ⟨depth, level, levelled⟩ :=
    (Found.Levelled.initial (m.nextNames m.index) start).levels
      ((m.classes.flatMap ancestralTargets).length + 1)
  have ordered := levelled.ordered
  have within := levelled.within
  rw [leads_eq] at ordered within
  rw [ancestors_eq_levels]
  refine ⟨List.nodup_reverse.mpr levelled.consistent.nodup, List.pairwise_reverse.mpr ?_⟩
  refine ordered.imp_of_mem fun isFar _ closer => distance_le closer ?_
  obtain ⟨n, positive, -, steps⟩ := (within _).mp isFar
  exact transGen_iff_steps.mpr ⟨n, positive, steps⟩

end CodeMap

theorem Config.ancestor_of_value {config : Config} {value : String}
    (given : config.get? "value" = some (.string value)) (named : dropLeadingBackslashes value ≠ "") :
    config.ancestor = .ok (dropLeadingBackslashes value) := by
  have nonempty : (dropLeadingBackslashes value).isEmpty = false := by
    simpa [String.isEmpty_iff] using named
  simp only [ancestor, requiredString, given, bind, Except.bind, nonempty]
  rfl

theorem Registry.satisfies_inherits {engine : PatternEngine} {registry : Registry} {config : Config}
    {value : String}
    (heirs : config.collector registry = .ok .inherits)
    (given : config.get? "value" = some (.string value)) (named : dropLeadingBackslashes value ≠ "")
    (m : CodeMap) (subject : Subject) : registry.satisfies engine config m subject =
      .ok ((m.ancestors subject.name).contains (dropLeadingBackslashes value)) := by
  simp only [satisfies_eq, heirs, Config.ancestor_of_value given named, bind, Except.bind]
  rfl

namespace CodeMap

/-- Ancestors are found breadth first. None is listed twice; they are the names to which ancestral
edges lead from a name in one step or more, the name itself only if it lies on a cycle; none stands
behind one that is more steps away; and the search ends by itself, since fuel beyond the number of
edges changes nothing. So a collector of heirs selects the classes from which its value is reached. -/
theorem ancestors_nearest_first (m : CodeMap) :
    (∀ name, let start := dropLeadingBackslashes name
      (m.ancestors name).Nodup ∧
      (∀ target, target ∈ m.ancestors name ↔ Relation.TransGen m.Leads start target) ∧
      (m.ancestors name).Pairwise (fun near far => m.distance start near ≤ m.distance start far) ∧
      ∀ fuel, (m.classes.flatMap ancestralTargets).length < fuel →
        m.ancestors name = (Found.search (m.nextNames m.index) fuel [start] {}).names.reverse) ∧
    ∀ (engine : PatternEngine) (registry : Registry) (config : Config) (value : String)
      (subject : Subject),
      config.collector registry = .ok .inherits → config.get? "value" = some (.string value) →
      dropLeadingBackslashes value ≠ "" →
      ∃ b, registry.satisfies engine config m subject = .ok b ∧
        (b = true ↔ Relation.TransGen m.Leads subject.name (dropLeadingBackslashes value)) := by
  refine ⟨?_, ?_⟩
  · intro name start
    obtain ⟨nodup, ordered⟩ := m.ancestors_ordered name
    refine ⟨nodup, fun target => ?_, ordered, fun fuel enough => ?_⟩
    · rw [mem_ancestors, transGen_dropLeadingBackslashes]
    · rw [ancestors_eq_levels, (m.search_ends start).2 fuel enough]
  · intro engine registry config value subject heirs given named
    refine ⟨_, Registry.satisfies_inherits heirs given named m subject, ?_⟩
    rw [List.contains_iff_mem, mem_ancestors]

/-- Two classes that take over from each other; the first is declared once more behind them. -/
def sampleCycle : CodeMap :=
  ⟨[{ path := ⟨"A.php"⟩,
      classes := [{ name := "A", edges := [⟨"B", .usesTrait, 1⟩, ⟨"I", .implements, 1⟩] }] },
    { path := ⟨"B.php"⟩, classes := [{ name := "B", edges := [⟨"A", .inherits, 2⟩] },
      { name := "A", edges := [⟨"Z", .inherits, 5⟩] }] }]⟩

theorem ancestors_nearest_first_sampleCycle :
    (sampleCycle.classes.flatMap ancestralTargets).length < 5 ∧
      sampleCycle.ancestors "\\A" =
        (Found.search (sampleCycle.nextNames sampleCycle.index) 5 ["A"] {}).names.reverse ∧
      "A" ∈ sampleCycle.ancestors "\\A" ∧
      Config.sampleHeir.collector Registry.standard = .ok .inherits ∧
      Config.sampleHeir.get? "value" = some (.string "\\B") ∧
      Registry.standard.satisfies Pattern.engine Config.sampleHeir sampleCycle ⟨"A", none⟩ =
        .ok true := by
  have first : sampleCycle.Leads "A" "B" :=
    ⟨_, (class?_eq_find? sampleCycle "A").trans rfl, by decide⟩
  have back : sampleCycle.Leads "B" "A" :=
    ⟨_, (class?_eq_find? sampleCycle "B").trans rfl, by decide⟩
  have few : (sampleCycle.classes.flatMap ancestralTargets).length < 5 := by decide
  obtain ⟨searched, collected⟩ := ancestors_nearest_first sampleCycle
  obtain ⟨-, reached, -, fuelled⟩ := searched "\\A"
  obtain ⟨b, told, b_iff⟩ :=
    collected Pattern.engine .standard .sampleHeir "\\B" ⟨"A", none⟩ rfl rfl (by decide)
  have heir : b = true := b_iff.mpr (.single first)
  refine ⟨few, fuelled 5 few, (reached "A").mpr (.tail (.single first) back), rfl, rfl, ?_⟩
  rw [told, heir]

end CodeMap

end ClassGraph
