import ClassGraph.Proofs.KeptPatterns

namespace ClassGraph

namespace Config

variable {config inner : Config}

/-- The collector that a configuration names, registered or not. -/
def collector? (config : Config) : Option Collector :=
  ((config.get? "type").bind Json.string?).bind Collector.ofTag?

/-- The objects in the array of a field. -/
def entries (config : Config) (key : String) : List Config :=
  (((config.get? key).bind Json.array?).getD []).filterMap Json.object?

theorem sizeOf_of_entries {key : String} (member : inner ∈ config.entries key) :
    sizeOf inner < sizeOf config := by
  unfold entries at member
  cases found : config.get? key with
  | none =>
    rw [found] at member
    cases member
  | some value =>
    rw [found] at member
    cases value with
    | array items => exact sizeOf_of_item found member
    | _ => cases member

/-- The pattern of a configuration occurs in a text. -/
def Finds (config : Config) (engine : PatternEngine) (ignoresCase : Bool) (text : String) : Prop :=
  ∃ written pattern, config.get? "regex" = some (.string written) ∧
    engine.compile ignoresCase written = .ok pattern ∧ engine.search pattern text = true

/-- A class meets a configuration. -/
def Meets (engine : PatternEngine) (m : CodeMap) (subject : Subject) (config : Config) : Prop :=
  match config.collector? with
  | some .className => config.Finds engine true subject.name
  | some .directory => ∃ path, subject.owner = some path ∧ config.Finds engine false path.slashed
  | some .inherits => ∃ value, config.get? "value" = some (.string value) ∧
      dropLeadingBackslashes value ∈ m.ancestors subject.name
  | some .combination =>
    (∀ inner, (_ : inner ∈ config.entries "must") → inner.Meets engine m subject) ∧
      ∀ inner, (_ : inner ∈ config.entries "must_not") → ¬ inner.Meets engine m subject
  | some .any => True
  | none => False
termination_by sizeOf config
decreasing_by all_goals exact sizeOf_of_entries ‹_›

section Fields

variable {engine : PatternEngine}

theorem entries_of_nested {key : String} {configs : List Config}
    (read : config.nested key = .ok configs) : config.entries key = configs := by
  unfold nested at read
  unfold entries
  split at read
  · rename_i absent
    cases read
    rw [absent]
    rfl
  · rename_i items found
    split at read
    · cases read
      rw [found]
      rfl
    · cases read
  · cases read

theorem collector?_of_collector {registry : Registry} {collector : Collector}
    (named : config.collector registry = .ok collector) : config.collector? = some collector := by
  unfold Config.collector at named
  split at named
  · rename_i tag found
    unfold Registry.find at named
    split at named
    · rename_i registered isRegistered
      cases named
      have sameTag := List.find?_some isRegistered
      have tagged : collector.tag = tag := beq_iff_eq.mp sameTag
      rw [collector?, found, ← tagged]
      cases collector <;> rfl
    · cases named
  · cases named

theorem freshPattern_eq_ok {collector : Collector} {ignoresCase : Bool} {pattern : engine.Compiled}
    (read : config.freshPattern engine collector ignoresCase = .ok pattern) :
    ∃ written, config.get? "regex" = some (.string written) ∧
      engine.compile ignoresCase written = .ok pattern := by
  unfold freshPattern requiredString at read
  split at read
  · rename_i written found
    refine ⟨written, found, ?_⟩
    dsimp only [bind, Except.bind] at read
    split at read
    · rename_i pattern' compiled
      cases read
      exact compiled
    · cases read
  · cases read
  · cases read

theorem finds_iff {collector : Collector} {ignoresCase : Bool} {pattern : engine.Compiled}
    {text : String} (read : config.freshPattern engine collector ignoresCase = .ok pattern) :
    config.Finds engine ignoresCase text ↔ engine.search pattern text = true := by
  obtain ⟨written, found, compiled⟩ := freshPattern_eq_ok read
  constructor
  · rintro ⟨written', pattern', found', compiled', occurs⟩
    cases found.symm.trans found'
    cases compiled.symm.trans compiled'
    exact occurs
  · intro occurs
    exact ⟨written, pattern, found, compiled, occurs⟩

theorem ancestor_eq_ok {name : String} (read : config.ancestor = .ok name) :
    ∃ value, config.get? "value" = some (.string value) ∧ name = dropLeadingBackslashes value := by
  unfold ancestor requiredString at read
  split at read
  · rename_i value found
    dsimp only [bind, Except.bind] at read
    split at read
    · cases read
    · cases read
      exact ⟨value, found, rfl⟩
  · cases read
  · cases read

theorem all_ne_nil_of_clauses {clauses : Clauses} (read : config.clauses = .ok clauses) :
    clauses.all ≠ [] := by
  obtain ⟨must, mustNot⟩ := nested_of_clauses read
  intro empty
  obtain ⟨noMust, noMustNot⟩ := List.append_eq_nil_iff.mp empty
  rw [noMust] at must
  rw [noMustNot] at mustNot
  simp only [Config.clauses, must, mustNot, bind, Except.bind] at read
  cases read

theorem all_of_clauses {clauses : Clauses} (read : config.clauses = .ok clauses) :
    clauses.all = config.entries "must" ++ config.entries "must_not" := by
  obtain ⟨must, mustNot⟩ := nested_of_clauses read
  rw [entries_of_nested must, entries_of_nested mustNot]
  rfl

theorem clauses_of_nested {must mustNot : List Config} (readMust : config.nested "must" = .ok must)
    (readMustNot : config.nested "must_not" = .ok mustNot) (nonempty : must ++ mustNot ≠ []) :
    config.clauses = .ok ⟨must, mustNot⟩ := by
  have notBoth : ¬ (must.isEmpty && mustNot.isEmpty) = true := by
    simpa [List.isEmpty_iff] using nonempty
  simp only [Config.clauses, readMust, readMustNot, bind, Except.bind]
  exact if_neg notBoth

end Fields

end Config

/-- A result is the truth of a statement, and no error. -/
def Settles (result : Except CollectorError Bool) (statement : Prop) : Prop :=
  ∃ b, result = .ok b ∧ (b = true ↔ statement)

section Loops

variable {α : Type} {f : α → Except CollectorError Bool} {P : α → Prop} {l : List α}

theorem settles_allM (each : ∀ a ∈ l, Settles (f a) (P a)) : Settles (l.allM f) (∀ a ∈ l, P a) := by
  induction l with
  | nil => exact ⟨true, rfl, by simp⟩
  | cons a l ih =>
    obtain ⟨first, told, first_iff⟩ := each a (List.mem_cons_self ..)
    obtain ⟨others, othersTold, others_iff⟩ := ih fun b member => each b (List.mem_cons_of_mem a member)
    rw [List.allM_cons, told]
    cases first with
    | false => exact ⟨false, rfl, by simp [← first_iff]⟩
    | true => exact ⟨others, othersTold, by simp [others_iff, ← first_iff]⟩

theorem settles_anyM (each : ∀ a ∈ l, Settles (f a) (P a)) : Settles (l.anyM f) (∃ a ∈ l, P a) := by
  induction l with
  | nil => exact ⟨false, rfl, by simp⟩
  | cons a l ih =>
    obtain ⟨first, told, first_iff⟩ := each a (List.mem_cons_self ..)
    obtain ⟨others, othersTold, others_iff⟩ := ih fun b member => each b (List.mem_cons_of_mem a member)
    rw [List.anyM_cons, told]
    cases first with
    | false => exact ⟨others, othersTold, by simp [others_iff, ← first_iff]⟩
    | true => exact ⟨true, rfl, by simp [← first_iff]⟩

theorem settles_combined {f : Config → Except CollectorError Bool} {P : Config → Prop}
    {clauses : Config.Clauses} (each : ∀ inner ∈ clauses.all, Settles (f inner) (P inner)) :
    Settles (Registry.combined f clauses)
      ((∀ inner ∈ clauses.must, P inner) ∧ ∀ inner ∈ clauses.mustNot, ¬ P inner) := by
  obtain ⟨must, mustTold, must_iff⟩ := settles_allM fun inner member =>
    each inner (List.mem_append_left clauses.mustNot member)
  obtain ⟨mustNot, mustNotTold, mustNot_iff⟩ := settles_anyM fun inner member =>
    each inner (List.mem_append_right clauses.must member)
  rw [Registry.combined, mustTold]
  cases must with
  | false => exact ⟨false, rfl, by simp [← must_iff]⟩
  | true =>
    refine ⟨!mustNot, by simp [mustNotTold, bind, Except.bind, pure, Except.pure], ?_⟩
    have holds := must_iff.mp rfl
    have none_iff : (∀ inner ∈ clauses.mustNot, ¬ P inner) ↔ ¬ mustNot = true := by
      rw [mustNot_iff]
      simp
    rw [none_iff, Bool.not_eq_true', Bool.not_eq_true]
    exact ⟨fun told => ⟨holds, told⟩, And.right⟩

theorem forM_eq_ok {g : α → Except CollectorError Unit} :
    forM l g = .ok () ↔ ∀ a ∈ l, g a = .ok () := by
  induction l with
  | nil => exact ⟨fun _ _ member => (List.not_mem_nil member).elim, fun _ => rfl⟩
  | cons a l ih =>
    rw [List.forM_cons, List.forall_mem_cons, ← ih]
    cases g a with
    | error e =>
      constructor
      · intro failed
        cases failed
      · rintro ⟨told, -⟩
        cases told
    | ok u => exact ⟨fun others => ⟨rfl, others⟩, And.right⟩

end Loops

namespace Registry

variable {registry : Registry} {engine : PatternEngine} {config : Config}

/-- The fields that a collector reads are as it wants them. -/
def Fits (registry : Registry) (engine : PatternEngine) (config : Config) : Collector → Prop
  | .className => ∃ pattern, config.freshPattern engine .className true = .ok pattern
  | .directory => ∃ pattern, config.freshPattern engine .directory false = .ok pattern
  | .inherits => ∃ name, config.ancestor = .ok name
  | .combination => ∃ clauses, config.clauses = .ok clauses ∧
      ∀ inner ∈ clauses.all, registry.validate engine inner = .ok ()
  | .any => True

theorem discard_eq_ok {α : Type} {r : Except CollectorError α} :
    discard r = .ok () ↔ ∃ a, r = .ok a := by
  cases r with
  | error e =>
    constructor
    · intro failed
      cases failed
    · rintro ⟨a, told⟩
      cases told
  | ok a => exact ⟨fun _ => ⟨a, rfl⟩, fun _ => rfl⟩

theorem validate_eq_ok : registry.validate engine config = .ok () ↔
    ∃ collector, config.collector registry = .ok collector ∧
      registry.Fits engine config collector := by
  rw [validate_eq]
  cases named : config.collector registry with
  | error e =>
    constructor
    · intro failed
      cases failed
    · rintro ⟨collector, told, -⟩
      cases told
  | ok collector =>
    simp only [Except.ok.injEq, exists_eq_left']
    cases collector with
    | className => exact discard_eq_ok
    | directory => exact discard_eq_ok
    | inherits => exact discard_eq_ok
    | combination =>
      unfold Fits
      cases config.clauses with
      | error e =>
        constructor
        · intro failed
          cases failed
        · rintro ⟨clauses, told, -⟩
          cases told
      | ok clauses =>
        refine forM_eq_ok.trans ⟨fun each => ⟨clauses, rfl, each⟩, ?_⟩
        rintro ⟨clauses', same, each⟩
        cases same
        exact each
    | any => exact ⟨fun _ => trivial, fun _ => rfl⟩

/-- A valid configuration is evaluated to its meaning. -/
theorem settles_satisfies (m : CodeMap) (subject : Subject) (config : Config)
    (valid : registry.validate engine config = .ok ()) :
    Settles (registry.satisfies engine config m subject) (config.Meets engine m subject) := by
  induction config using Config.induction with
  | step config ih =>
    obtain ⟨collector, named, fits⟩ := validate_eq_ok.mp valid
    rw [satisfies_eq, Config.Meets, Config.collector?_of_collector named, named]
    cases collector with
    | className =>
      obtain ⟨pattern, read⟩ := fits
      refine ⟨engine.search pattern subject.name, ?_, (Config.finds_iff read).symm⟩
      simp only [read, bind, Except.bind]
      rfl
    | directory =>
      obtain ⟨pattern, read⟩ := fits
      refine ⟨subject.owner.any fun path => engine.search pattern path.slashed, ?_, ?_⟩
      · simp only [read, bind, Except.bind]
        rfl
      · simp only [Config.finds_iff read]
        cases subject.owner <;> simp
    | inherits =>
      obtain ⟨name, read⟩ := fits
      obtain ⟨value, found, rfl⟩ := Config.ancestor_eq_ok read
      refine ⟨(m.ancestors subject.name).contains (dropLeadingBackslashes value), ?_, ?_⟩
      · simp only [read, bind, Except.bind]
        rfl
      · rw [List.contains_iff_mem]
        simp [found]
    | combination =>
      obtain ⟨clauses, read, each⟩ := fits
      obtain ⟨must, mustNot⟩ := Config.nested_of_clauses read
      dsimp only
      rw [Config.entries_of_nested must, Config.entries_of_nested mustNot]
      simp only [read, bind, Except.bind]
      exact settles_combined fun inner member => ih clauses read inner member (each inner member)
    | any => exact ⟨true, rfl, by simp⟩

end Registry

/-- Two values are the same up to the order of nested configurations, at any depth. -/
inductive Json.Reordered : Json → Json → Prop
  | refl (j : Json) : Reordered j j
  | trans {i j k : Json} (first : Reordered i j) (second : Reordered j k) : Reordered i k
  | permuted {key : String} {items items' : List Json} (front back : Config)
      (isClause : key = "must" ∨ key = "must_not") (perm : items.Perm items') :
      Reordered (.object (front ++ (key, .array items) :: back))
        (.object (front ++ (key, .array items') :: back))
  | within {key : String} {item item' : Json} (front back : Config) (left right : List Json)
      (isClause : key = "must" ∨ key = "must_not") (inner : Reordered item item') :
      Reordered (.object (front ++ (key, .array (left ++ item :: right)) :: back))
        (.object (front ++ (key, .array (left ++ item' :: right)) :: back))

/-- Two configurations are valid together and mean the same. -/
structure Config.Alike (c c' : Config) : Prop where
  valid : ∀ (registry : Registry) (engine : PatternEngine),
    registry.validate engine c = .ok () ↔ registry.validate engine c' = .ok ()
  meets : ∀ engine m subject, c.Meets engine m subject ↔ c'.Meets engine m subject

namespace Config.Alike

variable {c c' c'' : Config}

theorem refl (c : Config) : c.Alike c :=
  ⟨fun _ _ => Iff.rfl, fun _ _ _ => Iff.rfl⟩

theorem symm (alike : c.Alike c') : c'.Alike c :=
  ⟨fun registry engine => (alike.valid registry engine).symm,
    fun engine m subject => (alike.meets engine m subject).symm⟩

theorem trans (first : c.Alike c') (second : c'.Alike c'') : c.Alike c'' :=
  ⟨fun registry engine => (first.valid registry engine).trans (second.valid registry engine),
    fun engine m subject => (first.meets engine m subject).trans (second.meets engine m subject)⟩

end Config.Alike

/-- If the first value is a configuration, the second is one like it. -/
def Json.Follows (j j' : Json) : Prop :=
  ∀ c : Config, j.object? = some c → ∃ c' : Config, j'.object? = some c' ∧ c.Alike c'

theorem Json.Follows.refl (j : Json) : j.Follows j :=
  fun c isObject => ⟨c, isObject, .refl c⟩

/-- Each value of a list has one like it in another list. -/
def Covered (items items' : List Json) : Prop :=
  ∀ item ∈ items, ∃ item' ∈ items', item.Follows item' ∧ item'.Follows item

namespace Covered

variable {items items' : List Json}

theorem of_subset (subset : items ⊆ items') : Covered items items' :=
  fun item member => ⟨item, subset member, .refl item, .refl item⟩

theorem replace {item item' : Json} (left right : List Json) (forth : item.Follows item')
    (back : item'.Follows item) : Covered (left ++ item :: right) (left ++ item' :: right) := by
  intro other member
  rcases List.mem_append.mp member with inLeft | inRest
  · exact ⟨other, List.mem_append_left _ inLeft, .refl other, .refl other⟩
  · rcases List.mem_cons.mp inRest with rfl | inRight
    · exact ⟨item', List.mem_append_right _ (List.mem_cons_self ..), forth, back⟩
    · exact ⟨other, List.mem_append_right _ (List.mem_cons_of_mem item' inRight), .refl other,
        .refl other⟩

/-- Each configuration of a list has one like it in a list that covers it. -/
theorem exists_alike (covered : Covered items items') {c : Config}
    (member : c ∈ items.filterMap Json.object?) : ∃ c' ∈ items'.filterMap Json.object?, c.Alike c' := by
  obtain ⟨item, inItems, isObject⟩ := List.mem_filterMap.mp member
  obtain ⟨item', inItems', forth, -⟩ := covered item inItems
  obtain ⟨c', isObject', alike⟩ := forth c isObject
  exact ⟨c', List.mem_filterMap.mpr ⟨item', inItems', isObject'⟩, alike⟩

theorem all_objects (covered : Covered items' items) (all : items.all (·.object?.isSome) = true) :
    items'.all (·.object?.isSome) = true := by
  refine List.all_eq_true.mpr fun item' member => ?_
  obtain ⟨item, inItems, -, back⟩ := covered item' member
  obtain ⟨c, isObject⟩ := Option.isSome_iff_exists.mp (List.all_eq_true.mp all item inItems)
  obtain ⟨c', isObject', -⟩ := back c isObject
  rw [isObject']
  rfl

end Covered

/-- Two configurations have the same fields, but for arrays of nested configurations that cover each
other. -/
structure Config.Reshuffled (c c' : Config) : Prop where
  other : ∀ key, key ≠ "must" → key ≠ "must_not" → c.get? key = c'.get? key
  clause : ∀ key, c.get? key = c'.get? key ∨ ∃ items items', c.get? key = some (.array items) ∧
    c'.get? key = some (.array items') ∧ Covered items items' ∧ Covered items' items

namespace Config.Reshuffled

variable {c c' : Config}

theorem symm (same : c.Reshuffled c') : c'.Reshuffled c where
  other key notMust notMustNot := (same.other key notMust notMustNot).symm
  clause key := (same.clause key).imp Eq.symm
    fun ⟨items, items', found, found', forth, back⟩ => ⟨items', items, found', found, back, forth⟩

theorem collector_eq (same : c.Reshuffled c') (registry : Registry) :
    c.collector registry = c'.collector registry := by
  rw [collector, collector, same.other "type" (by decide) (by decide)]

theorem collector?_eq (same : c.Reshuffled c') : c.collector? = c'.collector? := by
  rw [collector?, collector?, same.other "type" (by decide) (by decide)]

theorem freshPattern_eq (same : c.Reshuffled c') (engine : PatternEngine) (collector : Collector)
    (ignoresCase : Bool) :
    c.freshPattern engine collector ignoresCase = c'.freshPattern engine collector ignoresCase := by
  rw [freshPattern, freshPattern, requiredString, requiredString,
    same.other "regex" (by decide) (by decide)]

theorem finds_iff (same : c.Reshuffled c') (engine : PatternEngine) (ignoresCase : Bool)
    (text : String) : c.Finds engine ignoresCase text ↔ c'.Finds engine ignoresCase text := by
  rw [Finds, Finds, same.other "regex" (by decide) (by decide)]

theorem ancestor_eq (same : c.Reshuffled c') : c.ancestor = c'.ancestor := by
  rw [ancestor, ancestor, requiredString, requiredString,
    same.other "value" (by decide) (by decide)]

theorem exists_entry (same : c.Reshuffled c') {key : String} {inner : Config}
    (member : inner ∈ c.entries key) : ∃ inner' ∈ c'.entries key, inner.Alike inner' := by
  rcases same.clause key with equal | ⟨items, items', found, found', forth, -⟩
  · refine ⟨inner, ?_, .refl inner⟩
    rw [entries, ← equal]
    exact member
  · rw [entries, found] at member
    rw [entries, found']
    exact forth.exists_alike member

theorem exists_nested (same : c.Reshuffled c') {key : String} {configs : List Config}
    (read : c.nested key = .ok configs) : ∃ configs', c'.nested key = .ok configs' := by
  rcases same.clause key with equal | ⟨items, items', found, found', -, back⟩
  · refine ⟨configs, ?_⟩
    rw [nested, ← equal]
    exact read
  · rw [nested, found] at read
    dsimp only at read
    split at read
    · rename_i all
      refine ⟨items'.filterMap Json.object?, ?_⟩
      rw [nested, found']
      exact if_pos (back.all_objects all)
    · cases read

theorem exists_inner (same : c.Reshuffled c') {inner : Config}
    (member : inner ∈ c.entries "must" ++ c.entries "must_not") :
    ∃ inner' ∈ c'.entries "must" ++ c'.entries "must_not", inner.Alike inner' := by
  rcases List.mem_append.mp member with inMust | inMustNot
  · obtain ⟨inner', inMust', alike⟩ := same.exists_entry inMust
    exact ⟨inner', List.mem_append_left _ inMust', alike⟩
  · obtain ⟨inner', inMustNot', alike⟩ := same.exists_entry inMustNot
    exact ⟨inner', List.mem_append_right _ inMustNot', alike⟩

theorem exists_clauses (same : c.Reshuffled c') {clauses : Clauses}
    (read : c.clauses = .ok clauses) : ∃ clauses', c'.clauses = .ok clauses' := by
  obtain ⟨readMust, readMustNot⟩ := nested_of_clauses read
  obtain ⟨must', readMust'⟩ := same.exists_nested readMust
  obtain ⟨mustNot', readMustNot'⟩ := same.exists_nested readMustNot
  obtain ⟨inner, member⟩ := List.exists_mem_of_ne_nil _ (all_ne_nil_of_clauses read)
  rw [all_of_clauses read] at member
  obtain ⟨inner', member', -⟩ := same.exists_inner member
  rw [entries_of_nested readMust', entries_of_nested readMustNot'] at member'
  exact ⟨_, clauses_of_nested readMust' readMustNot' (List.ne_nil_of_mem member')⟩

theorem fits (same : c.Reshuffled c') {registry : Registry} {engine : PatternEngine}
    {collector : Collector} (fits : registry.Fits engine c collector) :
    registry.Fits engine c' collector := by
  cases collector with
  | className =>
    rw [Registry.Fits, ← same.freshPattern_eq]
    exact fits
  | directory =>
    rw [Registry.Fits, ← same.freshPattern_eq]
    exact fits
  | inherits =>
    rw [Registry.Fits, ← same.ancestor_eq]
    exact fits
  | combination =>
    obtain ⟨clauses, read, each⟩ := fits
    obtain ⟨clauses', read'⟩ := same.exists_clauses read
    refine ⟨clauses', read', fun inner' member' => ?_⟩
    rw [all_of_clauses read'] at member'
    obtain ⟨inner, member, alike⟩ := same.symm.exists_inner member'
    rw [← all_of_clauses read] at member
    exact (alike.valid registry engine).mpr (each inner member)
  | any => trivial

theorem valid (same : c.Reshuffled c') {registry : Registry} {engine : PatternEngine}
    (valid : registry.validate engine c = .ok ()) : registry.validate engine c' = .ok () := by
  obtain ⟨collector, named, fits⟩ := Registry.validate_eq_ok.mp valid
  rw [same.collector_eq] at named
  exact Registry.validate_eq_ok.mpr ⟨collector, named, same.fits fits⟩

theorem meets (same : c.Reshuffled c') {engine : PatternEngine} {m : CodeMap} {subject : Subject}
    (meets : c.Meets engine m subject) : c'.Meets engine m subject := by
  rw [Meets, same.collector?_eq] at meets
  rw [Meets]
  split <;> rename_i named <;> rw [named] at meets
  · exact (same.finds_iff engine true subject.name).mp meets
  · obtain ⟨path, owner, finds⟩ := meets
    exact ⟨path, owner, (same.finds_iff engine false path.slashed).mp finds⟩
  · obtain ⟨value, found, isAncestor⟩ := meets
    rw [same.other "value" (by decide) (by decide)] at found
    exact ⟨value, found, isAncestor⟩
  · obtain ⟨must, mustNot⟩ := meets
    constructor
    · intro inner' member'
      obtain ⟨inner, member, alike⟩ := same.symm.exists_entry member'
      exact (alike.meets engine m subject).mpr (must inner member)
    · intro inner' member' met'
      obtain ⟨inner, member, alike⟩ := same.symm.exists_entry member'
      exact mustNot inner member ((alike.meets engine m subject).mp met')
  · trivial
  · exact meets

theorem alike (same : c.Reshuffled c') : c.Alike c' :=
  ⟨fun _ _ => ⟨same.valid, same.symm.valid⟩, fun _ _ _ => ⟨same.meets, same.symm.meets⟩⟩

/-- Replacing the array of a field by one that covers it and is covered by it. -/
theorem of_replaced {key : String} {items items' : List Json} (front back : Config)
    (isClause : key = "must" ∨ key = "must_not") (forth : Covered items items')
    (back' : Covered items' items) :
    Reshuffled (front ++ (key, .array items) :: back) (front ++ (key, .array items') :: back) := by
  have found (array : Json) (k : String) : get? (front ++ (key, array) :: back) k =
      (get? back k).or (if key = k then some array else get? front k) := by
    simp only [get?, Json.get?, List.reverse_append, List.reverse_cons, List.find?_append,
      List.find?_cons, List.find?_nil, Option.map_or]
    by_cases same : key = k
    · simp [same]
    · have differs : (key == k) = false := beq_eq_false_iff_ne.mpr same
      simp [same, differs]
  constructor
  · intro k notMust notMustNot
    have different : key ≠ k := by
      rintro rfl
      exact isClause.elim notMust notMustNot
    rw [found, found, if_neg different, if_neg different]
  · intro k
    rw [found, found]
    cases get? back k with
    | some value => exact .inl rfl
    | none =>
      by_cases same : key = k
      · rw [if_pos same, if_pos same]
        exact .inr ⟨items, items', rfl, rfl, forth, back'⟩
      · rw [if_neg same, if_neg same]
        exact .inl rfl

end Config.Reshuffled

namespace Json

theorem Follows.trans {i j k : Json} (first : i.Follows j) (second : j.Follows k) : i.Follows k := by
  intro c isObject
  obtain ⟨c', isObject', alike⟩ := first c isObject
  obtain ⟨c'', isObject'', alike'⟩ := second c' isObject'
  exact ⟨c'', isObject'', alike.trans alike'⟩

theorem follows_of_alike {c c' : Config} (alike : c.Alike c') : (object c).Follows (object c') := by
  intro d isObject
  cases isObject
  exact ⟨c', rfl, alike⟩

theorem Reordered.follows {j j' : Json} (reordered : j.Reordered j') :
    j.Follows j' ∧ j'.Follows j := by
  induction reordered with
  | refl j => exact ⟨.refl j, .refl j⟩
  | trans _ _ first second => exact ⟨first.1.trans second.1, second.2.trans first.2⟩
  | permuted front back isClause perm =>
    have alike := (Config.Reshuffled.of_replaced front back isClause
      (Covered.of_subset perm.subset) (Covered.of_subset perm.symm.subset)).alike
    exact ⟨follows_of_alike alike, follows_of_alike alike.symm⟩
  | within front back left right isClause _ ih =>
    have alike := (Config.Reshuffled.of_replaced front back isClause
      (Covered.replace left right ih.1 ih.2) (Covered.replace left right ih.2 ih.1)).alike
    exact ⟨follows_of_alike alike, follows_of_alike alike.symm⟩

theorem Reordered.alike {c c' : Config} (reordered : (object c).Reordered (object c')) :
    c.Alike c' := by
  obtain ⟨d, isObject, alike⟩ := reordered.follows.1 c rfl
  cases isObject
  exact alike

end Json

/-- What validation finds wrong with a configuration. -/
def Registry.fault? (registry : Registry) (engine : PatternEngine) (config : Config) :
    Option CollectorError :=
  match registry.validate engine config with
  | .ok _ => none
  | .error e => some e

theorem Registry.valid_of_fault? {registry : Registry} {engine : PatternEngine} {config : Config}
    (faultless : registry.fault? engine config = none) :
    registry.validate engine config = .ok () := by
  unfold fault? at faultless
  split at faultless
  · assumption
  · cases faultless

theorem Registry.validate_of_fault? {registry : Registry} {engine : PatternEngine} {config : Config}
    {error : CollectorError} (fault : registry.fault? engine config = some error) :
    registry.validate engine config = .error error := by
  unfold fault? at fault
  split at fault
  · cases fault
  · cases fault
    assumption

namespace GroupDefinition

variable {engine : PatternEngine} {registry : Registry} {configs : List Config}

theorem forM_validate (engine : PatternEngine) (registry : Registry) (configs : List Config) :
    forM configs (registry.validate engine) =
      (configs.findSome? (registry.fault? engine)).elim (.ok ()) .error := by
  induction configs with
  | nil => rfl
  | cons config rest ih =>
    rw [List.forM_cons, List.findSome?_cons, ih, Registry.fault?]
    cases registry.validate engine config <;> rfl

/-- A class of a name among several meets one of several configurations. -/
def Selects (engine : PatternEngine) (registry : Registry) (m : CodeMap) (configs : List Config)
    (entries : List (FileRecord × ClassRecord)) (name : String) : Prop :=
  ∃ entry ∈ entries, entry.2.name = name ∧
    ∃ config ∈ configs, registry.satisfies engine config m ⟨name, some entry.1.path⟩ = .ok true

theorem selects_cons {m : CodeMap} {entry : FileRecord × ClassRecord}
    {entries : List (FileRecord × ClassRecord)} {name : String} :
    Selects engine registry m configs (entry :: entries) name ↔
      (entry.2.name = name ∧
        ∃ config ∈ configs, registry.satisfies engine config m ⟨name, some entry.1.path⟩ = .ok true) ∨
      Selects engine registry m configs entries name := by
  simp only [Selects, List.mem_cons, or_and_right, exists_or, exists_eq_left]

/-- Valid configurations let all classes be looked at without error. -/
theorem exists_matching (m : CodeMap)
    (valid : ∀ config ∈ configs, registry.validate engine config = .ok ())
    (entries : List (FileRecord × ClassRecord)) :
    ∃ names, (matching engine registry m configs entries).answer = .ok names ∧
      ∀ name, name ∈ names ↔ Selects engine registry m configs entries name := by
  rw [(loop_matching engine registry m configs entries).2]
  induction entries with
  | nil => exact ⟨[], rfl, fun name => by simp [Selects]⟩
  | cons entry rest ih =>
    obtain ⟨names, others, members⟩ := ih
    have each (config : Config) (member : config ∈ configs) :
        Settles (registry.satisfies engine config m ⟨entry.2.name, some entry.1.path⟩)
          (registry.satisfies engine config m ⟨entry.2.name, some entry.1.path⟩ = .ok true) := by
      obtain ⟨b, told, -⟩ := Registry.settles_satisfies m ⟨entry.2.name, some entry.1.path⟩ config
        (valid config member)
      exact ⟨b, told, by rw [told, Except.ok.injEq]⟩
    obtain ⟨met, told, met_iff⟩ := settles_anyM each
    rw [List.foldr_cons, others, told]
    refine ⟨if met then entry.2.name :: names else names, rfl, fun name => ?_⟩
    rw [selects_cons, ← members]
    cases met with
    | false =>
      refine ⟨.inr, ?_⟩
      rintro (⟨rfl, some⟩ | member)
      · exact absurd (met_iff.mpr some) Bool.false_ne_true
      · exact member
    | true =>
      refine List.mem_cons.trans (or_congr_left ⟨?_, fun same => same.1.symm⟩)
      rintro rfl
      exact ⟨rfl, met_iff.mp rfl⟩

/-- A group has the first fault that validation finds in its configurations, or it has members. -/
theorem members_cases (engine : PatternEngine) (registry : Registry) (m : CodeMap)
    (configs : List Config) :
    (∃ e, configs.findSome? (registry.fault? engine) = some e ∧
      (members engine registry m configs).answer = .error e) ∨
    (configs.findSome? (registry.fault? engine) = none ∧
      ∃ names, (members engine registry m configs).answer = .ok (inOrder Text.before names) ∧
        ∀ name, name ∈ names ↔ Selects engine registry m configs m.entries name) := by
  rw [answer_members, forM_validate]
  cases faults : configs.findSome? (registry.fault? engine) with
  | some e => exact .inl ⟨e, rfl, rfl⟩
  | none =>
    have valid : ∀ config ∈ configs, registry.validate engine config = .ok () := fun config member =>
      Registry.valid_of_fault? (List.findSome?_eq_none_iff.mp faults config member)
    obtain ⟨names, matched, selected⟩ := exists_matching m valid m.entries
    rw [matched]
    exact .inr ⟨rfl, names, rfl, selected⟩

end GroupDefinition

theorem Classification.errors_ofDefinitions (engine : PatternEngine) (registry : Registry)
    (m : CodeMap) (definitions : List GroupDefinition) :
    (ofDefinitions engine registry m definitions).errors =
      (GroupDefinition.arrange definitions).filterMap fun d =>
        (d.configs.findSome? (registry.fault? engine)).map (d.name, ·) := by
  have added (arranged : List GroupDefinition) (start : Classification) :
      (arranged.foldl (fun c d => c.addGroup d.name
        (GroupDefinition.members engine registry m d.configs).answer) start).errors =
      start.errors ++ arranged.filterMap fun d =>
        (d.configs.findSome? (registry.fault? engine)).map (d.name, ·) := by
    induction arranged generalizing start with
    | nil => exact (List.append_nil _).symm
    | cons d rest ih =>
      rw [List.foldl_cons, ih, List.filterMap_cons]
      rcases GroupDefinition.members_cases engine registry m d.configs with
        ⟨e, fault, failed⟩ | ⟨faultless, names, told, -⟩
      · rw [fault, failed]
        exact List.append_assoc ..
      · rw [faultless, told]
        rfl
  rw [ofDefinitions, result_evaluating, added]
  rfl

/-- Whatever patterns are compiled and searched with, a valid configuration is evaluated without error
to its meaning, for every class and map, and so is each one that differs from it only in the order of
nested configurations. The errors of a classification are what validation finds, so that none occurs
while classes are looked at. Calls made before, whatever they were about, change no answer. -/
theorem Registry.validation_sound (engine : PatternEngine) (registry : Registry) :
    (∀ config, registry.validate engine config = .ok () →
      (∀ m subject, ∃ b, registry.satisfies engine config m subject = .ok b ∧
        (b = true ↔ config.Meets engine m subject)) ∧
      ∀ config' : Config, (Json.object config).Reordered (.object config') →
        registry.validate engine config' = .ok () ∧
        ∀ m subject, registry.satisfies engine config' m subject =
          registry.satisfies engine config m subject) ∧
    (∀ m definitions, (Classification.ofDefinitions engine registry m definitions).errors =
      (GroupDefinition.arrange definitions).filterMap fun d =>
        (d.configs.findSome? (registry.fault? engine)).map (d.name, ·)) ∧
    ∀ calls : List CollectorCall,
      (∀ config, ((registry.validating engine config).after (registry.keptBehind engine calls)).1 =
        registry.validate engine config) ∧
      (∀ config m subject, ((registry.satisfying engine m subject config).after
        (registry.keptBehind engine calls)).1 = registry.satisfies engine config m subject) ∧
      ∀ m definitions, ((Classification.evaluating engine registry m definitions).run
        (registry.keptBehind engine calls)).1 =
          Classification.ofDefinitions engine registry m definitions := by
  refine ⟨?_, Classification.errors_ofDefinitions engine registry, ?_⟩
  · intro config valid
    refine ⟨fun m subject => settles_satisfies m subject config valid, ?_⟩
    intro config' reordered
    have alike := reordered.alike
    have valid' := (alike.valid registry engine).mp valid
    refine ⟨valid', fun m subject => ?_⟩
    obtain ⟨b, told, b_iff⟩ := settles_satisfies m subject config valid
    obtain ⟨b', told', b'_iff⟩ := settles_satisfies m subject config' valid'
    have same : b' = b := Bool.eq_iff_iff.mpr
      (b'_iff.trans ((alike.meets engine m subject).symm.trans b_iff.symm))
    rw [told, told', same]
  · intro calls
    refine ⟨fun config => registry.steady_validating engine config _,
      fun config m subject => registry.steady_satisfying engine m subject config _, ?_⟩
    intro m definitions
    rw [Classification.ofDefinitions, Classification.result_evaluating,
      Classification.result_evaluating]

namespace Config

def sampleName : Config :=
  [("type", .string "className"), ("regex", .string "a")]

def sampleHeir : Config :=
  [("type", .string "inherits"), ("value", .string "\\B")]

/-- A combination that holds nested ones and, among these, another combination. -/
def sampleCombination (first second : Config) : Config :=
  [("type", .string "bool"), ("must", .array [.object first, .object second]),
   ("must_not", .array [.object [("type", .string "bool"), ("must_not", .array [.object sampleName])]])]

theorem sampleCombination_valid {engine : PatternEngine} {pattern : engine.Compiled}
    (compiled : engine.compile true "a" = .ok pattern) :
    Registry.standard.validate engine (sampleCombination sampleName sampleHeir) = .ok () := by
  have name : Registry.standard.validate engine sampleName = .ok () := by
    refine Registry.validate_eq_ok.mpr ⟨.className, rfl, pattern, ?_⟩
    have written : sampleName.requiredString .className "regex" = .ok "a" := rfl
    simp only [freshPattern, written, bind, Except.bind, compiled]
  have heir : Registry.standard.validate engine sampleHeir = .ok () :=
    Registry.validate_eq_ok.mpr ⟨.inherits, rfl, "B", rfl⟩
  have denied : Registry.standard.validate engine
      [("type", .string "bool"), ("must_not", .array [.object sampleName])] = .ok () := by
    refine Registry.validate_eq_ok.mpr ⟨.combination, rfl, ⟨[], [sampleName]⟩, rfl, ?_⟩
    intro inner member
    rw [List.mem_singleton.mp member]
    exact name
  refine Registry.validate_eq_ok.mpr ⟨.combination, rfl, ⟨[sampleName, sampleHeir], [_]⟩, rfl, ?_⟩
  intro inner member
  rcases List.mem_cons.mp member with rfl | others
  · exact name
  · rcases List.mem_cons.mp others with rfl | last
    · exact heir
    · rw [List.mem_singleton.mp last]
      exact denied

end Config

theorem Registry.validation_sound_sampleCombination :
    standard.validate Pattern.engine (.sampleCombination .sampleName .sampleHeir) = .ok () ∧
      standard.validate Pattern.engine (.sampleCombination .sampleHeir .sampleName) = .ok () ∧
      ∀ m subject, ∃ b, standard.satisfies Pattern.engine
          (.sampleCombination .sampleHeir .sampleName) m subject = .ok b ∧
        (b = true ↔
          (Config.sampleCombination .sampleName .sampleHeir).Meets Pattern.engine m subject) := by
  have reordered : (Json.object (Config.sampleCombination .sampleName .sampleHeir)).Reordered
      (.object (Config.sampleCombination .sampleHeir .sampleName)) :=
    .permuted [_] [_] (.inl rfl) (.swap _ _ [])
  have compiles : (Pattern.engine.compile true "a").toOption.isSome = true := by decide +kernel
  obtain ⟨pattern, compiled⟩ : ∃ pattern, Pattern.engine.compile true "a" = .ok pattern := by
    cases told : Pattern.engine.compile true "a" with
    | error message =>
      rw [told] at compiles
      cases compiles
    | ok pattern => exact ⟨pattern, rfl⟩
  have valid := Config.sampleCombination_valid compiled
  obtain ⟨settled, swapped⟩ := (validation_sound Pattern.engine standard).1 _ valid
  obtain ⟨valid', same⟩ := swapped _ reordered
  refine ⟨valid, valid', fun m subject => ?_⟩
  rw [same]
  exact settled m subject

end ClassGraph
