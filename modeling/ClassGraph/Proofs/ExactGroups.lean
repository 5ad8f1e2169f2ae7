import ClassGraph.Proofs.NearestAncestors
import ClassGraph.Proofs.TextOrder

namespace ClassGraph

namespace GroupDefinition

variable {definitions : List GroupDefinition} {name : String}

/-- The configurations of a group; of several definitions with its name the last counts. -/
def configs? (definitions : List GroupDefinition) (name : String) : Option (List Config) :=
  (definitions.reverse.find? (·.name == name)).map (·.configs)

theorem find?_arrange : (arrange definitions).find? (·.name == name) =
    definitions.reverse.find? (·.name == name) :=
  Text.find?_inOrder_label name

theorem increasing_arrange : (arrange definitions).Pairwise fun a b =>
    Text.before a.name b.name = true :=
  Text.increasing_inOrder_label

theorem mem_names_arrange : name ∈ (arrange definitions).map (·.name) ↔
    ∃ d ∈ definitions, d.name = name := by
  have found := congrArg Option.isSome (@find?_arrange definitions name)
  rw [Bool.eq_iff_iff, List.find?_isSome, List.find?_isSome] at found
  simpa using found

variable {β : Type} {arranged : List GroupDefinition}

theorem lookup_map (f : GroupDefinition → β) : (arranged.map fun d => (d.name, f d)).lookup name =
    (arranged.find? (·.name == name)).map f := by
  induction arranged with
  | nil => rfl
  | cons d rest ih =>
    rw [List.map_cons, List.lookup_cons, List.find?_cons, Bool.beq_comm]
    cases d.name == name with
    | true => rfl
    | false => exact ih

theorem lookup_filterMap (distinct : arranged.Pairwise fun a b => a.name ≠ b.name)
    (f : GroupDefinition → Option β) :
    (arranged.filterMap fun d => (f d).map (d.name, ·)).lookup name =
      (arranged.find? (·.name == name)).bind f := by
  induction arranged with
  | nil => rfl
  | cons d rest ih =>
    obtain ⟨apart, others⟩ := List.pairwise_cons.mp distinct
    rw [List.filterMap_cons, List.find?_cons]
    by_cases same : d.name = name
    · -- No later definition has the name, so that a faultless one leaves nothing to be found.
      have absent : rest.find? (·.name == name) = none := by
        refine List.find?_eq_none.mpr fun other member => ?_
        rw [← same, beq_iff_eq]
        exact (apart other member).symm
      rw [beq_iff_eq.mpr same]
      cases told : f d with
      | none =>
        refine (ih others).trans ?_
        rw [absent, Option.bind_some, told]
        rfl
      | some value => simp [same, told]
    · rw [beq_eq_false_iff_ne.mpr same]
      cases f d with
      | none => exact ih others
      | some value =>
        have different : (name == d.name) = false := beq_eq_false_iff_ne.mpr (Ne.symm same)
        rw [Option.map_some, List.lookup_cons, different]
        exact ih others

end GroupDefinition

namespace Classification

open GroupDefinition (configs?)

variable (engine : PatternEngine) (registry : Registry) (m : CodeMap)
  (definitions : List GroupDefinition) (name : String)

/-- The members of a group. -/
def members? (c : Classification) (name : String) : Option (List String) :=
  c.groups.lookup name

/-- The message of the error of a group. -/
def message? (c : Classification) (name : String) : Option String :=
  (c.errors.lookup name).map (·.message)

theorem evaluating_eq (cache : PatternCache engine) :
    ((evaluating engine registry m definitions).run cache).1 =
      ofDefinitions engine registry m definitions := by
  rw [ofDefinitions, result_evaluating, result_evaluating]

theorem groups_ofDefinitions : (ofDefinitions engine registry m definitions).groups =
    (GroupDefinition.arrange definitions).map fun d =>
      (d.name, (GroupDefinition.members engine registry m d.configs).answer.toOption.getD []) := by
  have added (arranged : List GroupDefinition) (start : Classification) :
      (arranged.foldl (fun c d => c.addGroup d.name
        (GroupDefinition.members engine registry m d.configs).answer) start).groups =
      start.groups ++ arranged.map fun d =>
        (d.name, (GroupDefinition.members engine registry m d.configs).answer.toOption.getD []) := by
    induction arranged generalizing start with
    | nil => exact (List.append_nil _).symm
    | cons d rest ih =>
      rw [List.foldl_cons, ih, List.map_cons]
      cases (GroupDefinition.members engine registry m d.configs).answer <;>
        exact List.append_assoc ..
  rw [ofDefinitions, result_evaluating, added]
  rfl

theorem members?_ofDefinitions : (ofDefinitions engine registry m definitions).members? name =
    (configs? definitions name).map fun configs =>
      (GroupDefinition.members engine registry m configs).answer.toOption.getD [] := by
  rw [members?, groups_ofDefinitions, GroupDefinition.lookup_map, GroupDefinition.find?_arrange,
    configs?, Option.map_map]
  rfl

theorem message?_ofDefinitions : (ofDefinitions engine registry m definitions).message? name =
    (configs? definitions name).bind fun configs =>
      (configs.findSome? (registry.fault? engine)).map (·.message) := by
  have distinct : (GroupDefinition.arrange definitions).Pairwise fun a b => a.name ≠ b.name := by
    refine GroupDefinition.increasing_arrange.imp fun less same => ?_
    rw [same, Text.before_iff] at less
    exact lt_irrefl _ less
  rw [message?, errors_ofDefinitions, GroupDefinition.lookup_filterMap distinct,
    GroupDefinition.find?_arrange, configs?]
  cases definitions.reverse.find? (·.name == name) <;> rfl

variable {engine registry m definitions name} {configs : List Config}

theorem valid_group (given : configs? definitions name = some configs)
    (valid : ∀ config ∈ configs, registry.validate engine config = .ok ()) :
    let c := ofDefinitions engine registry m definitions
    c.message? name = none ∧ ∃ members, c.members? name = some members ∧
      members.Pairwise (Text.bytes · < Text.bytes ·) ∧ ∀ className, className ∈ members ↔
        GroupDefinition.Selects engine registry m configs m.entries className := by
  intro c
  have faultless : configs.findSome? (registry.fault? engine) = none := by
    refine List.findSome?_eq_none_iff.mpr fun config member => ?_
    rw [Registry.fault?, valid config member]
  rcases GroupDefinition.members_cases engine registry m configs with
    ⟨e, fault, -⟩ | ⟨-, names, told, selected⟩
  · cases faultless.symm.trans fault
  · refine ⟨?_, inOrder Text.before names, ?_, ?_, ?_⟩
    · rw [message?_ofDefinitions, given, Option.bind_some, faultless, Option.map_none]
    · rw [members?_ofDefinitions, given, Option.map_some, told]
      rfl
    · exact (@Text.increasing_inOrder_label String id names).imp Text.bytes_lt_of_before
    · intro className
      rw [Text.mem_inOrder, selected]

theorem faulty_group (given : configs? definitions name = some configs)
    (invalid : ¬ ∀ config ∈ configs, registry.validate engine config = .ok ()) :
    let c := ofDefinitions engine registry m definitions
    ∃ front config back error, configs = front ++ config :: back ∧
      (∀ earlier ∈ front, registry.validate engine earlier = .ok ()) ∧
      registry.validate engine config = .error error ∧
      c.members? name = some [] ∧ c.message? name = some error.message := by
  intro c
  rcases GroupDefinition.members_cases engine registry m configs with
    ⟨e, fault, failed⟩ | ⟨faultless, -⟩
  · obtain ⟨front, config, back, split, isFault, earlier⟩ := List.findSome?_eq_some_iff.mp fault
    refine ⟨front, config, back, e, split, fun valid member => ?_, ?_, ?_, ?_⟩
    · exact Registry.valid_of_fault? (earlier valid member)
    · exact Registry.validate_of_fault? isFault
    · rw [members?_ofDefinitions, given, Option.map_some, failed]
      rfl
    · rw [message?_ofDefinitions, given, Option.bind_some, fault, Option.map_some]
  · refine absurd (fun config member => ?_) invalid
    exact Registry.valid_of_fault? (List.findSome?_eq_none_iff.mp faultless config member)

/-- Groups are sorted out exactly, and each on its own. A classification has the groups that are
defined, in order. If all configurations of a group are valid, it has no error, and its members are in
increasing order the names for which a class of the map meets one of the configurations; otherwise it
has no members, and its error is that of the first configuration that is not valid. What is said of a
group stays the same if its own configurations do, whatever the other groups are and whatever patterns
are kept. All of this holds however patterns are compiled and searched. -/
theorem groups_exact (engine : PatternEngine) (registry : Registry) (m : CodeMap)
    (definitions : List GroupDefinition) (cache : PatternCache engine) :
    let c := ((evaluating engine registry m definitions).run cache).1
    (c.groups.map (·.1)).Pairwise (Text.bytes · < Text.bytes ·) ∧
    (∀ name, name ∈ c.groups.map (·.1) ↔ ∃ d ∈ definitions, d.name = name) ∧
    (∀ name configs, configs? definitions name = some configs →
      ((∀ config ∈ configs, registry.validate engine config = .ok ()) →
        c.message? name = none ∧ ∃ members, c.members? name = some members ∧
          members.Pairwise (Text.bytes · < Text.bytes ·) ∧ ∀ className, className ∈ members ↔
            GroupDefinition.Selects engine registry m configs m.entries className) ∧
      ((¬ ∀ config ∈ configs, registry.validate engine config = .ok ()) →
        ∃ front config back error, configs = front ++ config :: back ∧
          (∀ earlier ∈ front, registry.validate engine earlier = .ok ()) ∧
          registry.validate engine config = .error error ∧
          c.members? name = some [] ∧ c.message? name = some error.message)) ∧
    ∀ name definitions' cache', configs? definitions' name = configs? definitions name →
      let c' := ((evaluating engine registry m definitions').run cache').1
      c'.members? name = c.members? name ∧ c'.message? name = c.message? name := by
  intro c
  have told : c = ofDefinitions engine registry m definitions :=
    evaluating_eq engine registry m definitions cache
  have names : c.groups.map (·.1) = (GroupDefinition.arrange definitions).map (·.name) := by
    rw [told, groups_ofDefinitions, List.map_map]
    rfl
  refine ⟨?_, fun name => ?_, ?_, ?_⟩
  · rw [names, List.pairwise_map]
    exact GroupDefinition.increasing_arrange.imp Text.bytes_lt_of_before
  · rw [names, GroupDefinition.mem_names_arrange]
  · rw [told]
    exact fun name configs given => ⟨valid_group given, faulty_group given⟩
  · intro name definitions' cache' same c'
    have told' : c' = ofDefinitions engine registry m definitions' :=
      evaluating_eq engine registry m definitions' cache'
    rw [told, told', members?_ofDefinitions, members?_ofDefinitions, message?_ofDefinitions,
      message?_ofDefinitions, same]
    exact ⟨rfl, rfl⟩

/-- A group whose second configuration names no collector. -/
def sampleGroups : List GroupDefinition :=
  [⟨"heirs", [.sampleHeir]⟩, ⟨"broken", [.sampleHeir, []]⟩]

theorem groups_exact_sampleGroups :
    let c := ((evaluating Pattern.engine .standard .sampleCycle sampleGroups).run {}).1
    "heirs" ∈ c.groups.map (·.1) ∧
      c.message? "heirs" = none ∧ (∃ members, c.members? "heirs" = some members ∧ "A" ∈ members) ∧
      c.members? "broken" = some [] ∧
      c.message? "broken" = some "Collector configuration has no string \"type\" field" := by
  intro c
  have valid : Registry.standard.validate Pattern.engine .sampleHeir = .ok () :=
    Registry.validate_eq_ok.mpr ⟨.inherits, rfl, "B", rfl⟩
  have untyped : Registry.standard.validate Pattern.engine [] = .error .missingType := by
    rw [Registry.validate_eq]
    rfl
  have heir : Registry.standard.satisfies Pattern.engine .sampleHeir .sampleCycle
      ⟨"A", some ⟨"A.php"⟩⟩ = .ok true := by
    have parent : "B" ∈ CodeMap.sampleCycle.ancestors "A" := CodeMap.mem_ancestors.mpr
      (.single ⟨_, (CodeMap.class?_eq_find? .sampleCycle "A").trans rfl, by decide⟩)
    rw [Registry.satisfies_inherits rfl rfl (by decide), Except.ok.injEq, List.contains_iff_mem]
    exact parent
  obtain ⟨-, names, each, -⟩ := groups_exact Pattern.engine .standard .sampleCycle sampleGroups {}
  obtain ⟨faultless, members, told, -, selected⟩ :=
    (each "heirs" [.sampleHeir] rfl).1 fun config member => List.mem_singleton.mp member ▸ valid
  obtain ⟨front, config, back, error, split, earlier, fault, empty, message⟩ :=
    (each "broken" [.sampleHeir, []] rfl).2 fun all => by
      cases untyped.symm.trans (all [] (by simp))
  have second : error = .missingType := by
    cases front with
    | nil =>
      obtain ⟨rfl, -⟩ := List.cons.inj split
      cases valid.symm.trans fault
    | cons first rest =>
      cases rest with
      | nil =>
        obtain ⟨-, others⟩ := List.cons.inj split
        obtain ⟨rfl, -⟩ := List.cons.inj others
        cases untyped.symm.trans fault
        rfl
      | cons next more =>
        have sizes := congrArg List.length split
        simp only [List.length_append, List.length_cons, List.length_nil] at sizes
        omega
  rw [second] at message
  refine ⟨(names "heirs").mpr ⟨_, List.mem_cons_self, rfl⟩, faultless, ⟨members, told, ?_⟩, empty,
    message⟩
  exact (selected "A").mpr ⟨_, List.mem_cons_self, rfl, .sampleHeir, List.mem_cons_self, heir⟩

end Classification

end ClassGraph
