import ClassGraph.Group.Classification

namespace ClassGraph

namespace Evaluation

variable {engine : PatternEngine} {α β : Type}

/-- An evaluation whose result does not depend on the patterns that are kept. -/
def Steady (x : Evaluation engine α) : Prop :=
  ∀ cache, (x.after cache).1 = x.answer

theorem after_bind (x : Evaluation engine α) (f : α → Evaluation engine β)
    (cache : PatternCache engine) :
    (x >>= f).after cache = match x.after cache with
      | (.ok a, later) => (f a).after later
      | (.error e, later) => (.error e, later) := by
  change StateT.run (ExceptT.run x >>= ExceptT.bindCont f) cache = _
  rw [StateT.run_bind]
  change (match (x.after cache) with | (r, later) => StateT.run (ExceptT.bindCont f r) later) = _
  rcases x.after cache with ⟨a | a, later⟩ <;> rfl

theorem after_get (f : PatternCache engine → Evaluation engine β) (cache : PatternCache engine) :
    (get >>= f).after cache = (f cache).after cache :=
  rfl

theorem steady_ofExcept (r : Except CollectorError α) :
    (ofExcept r : Evaluation engine α).Steady :=
  fun _ => rfl

theorem steady_pure (a : α) : (pure a : Evaluation engine α).Steady :=
  fun _ => rfl

namespace Steady

variable {x : Evaluation engine α} {f : α → Evaluation engine β}

theorem result_bind (steady : x.Steady) (each : ∀ a, (f a).Steady) (cache : PatternCache engine) :
    ((x >>= f).after cache).1 = x.answer >>= fun a => (f a).answer := by
  rw [after_bind, ← steady cache]
  rcases x.after cache with ⟨e | a, later⟩
  · rfl
  · exact each a later

theorem bind (steady : x.Steady) (each : ∀ a, (f a).Steady) : (x >>= f).Steady :=
  fun cache => (steady.result_bind each cache).trans (steady.result_bind each {}).symm

theorem answer_bind (steady : x.Steady) (each : ∀ a, (f a).Steady) :
    (x >>= f).answer = x.answer >>= fun a => (f a).answer :=
  steady.result_bind each {}

end Steady

section Loops

variable {f : α → Evaluation engine Bool} {l : List α}

theorem loop_forM {g : α → Evaluation engine Unit} (each : ∀ a ∈ l, (g a).Steady) :
    (forM l g).Steady ∧ (forM l g).answer = forM l fun a => (g a).answer := by
  induction l with
  | nil => exact ⟨steady_pure (), rfl⟩
  | cons a l ih =>
    have first := each a (List.mem_cons_self ..)
    obtain ⟨others, told⟩ := ih fun b member => each b (List.mem_cons_of_mem a member)
    rw [List.forM_cons, List.forM_cons]
    refine ⟨first.bind fun _ => others, ?_⟩
    rw [first.answer_bind fun _ => others, told]

theorem loop_allM (each : ∀ a ∈ l, (f a).Steady) :
    (l.allM f).Steady ∧ (l.allM f).answer = l.allM fun a => (f a).answer := by
  induction l with
  | nil => exact ⟨steady_pure true, rfl⟩
  | cons a l ih =>
    have first := each a (List.mem_cons_self ..)
    obtain ⟨others, told⟩ := ih fun b member => each b (List.mem_cons_of_mem a member)
    have next (met : Bool) : (if met = true then l.allM f else pure false).Steady := by
      cases met
      · exact steady_pure false
      · exact others
    rw [List.allM_cons, List.allM_cons]
    refine ⟨first.bind next, ?_⟩
    rw [first.answer_bind next]
    refine congrArg _ (funext fun met => ?_)
    cases met
    · rfl
    · exact told

theorem loop_anyM (each : ∀ a ∈ l, (f a).Steady) :
    (l.anyM f).Steady ∧ (l.anyM f).answer = l.anyM fun a => (f a).answer := by
  induction l with
  | nil => exact ⟨steady_pure false, rfl⟩
  | cons a l ih =>
    have first := each a (List.mem_cons_self ..)
    obtain ⟨others, told⟩ := ih fun b member => each b (List.mem_cons_of_mem a member)
    have next (met : Bool) : (if met = true then pure true else l.anyM f).Steady := by
      cases met
      · exact others
      · exact steady_pure true
    rw [List.anyM_cons, List.anyM_cons]
    refine ⟨first.bind next, ?_⟩
    rw [first.answer_bind next]
    refine congrArg _ (funext fun met => ?_)
    cases met
    · exact told
    · rfl

end Loops

end Evaluation

namespace PatternCache

variable {engine : PatternEngine} {cache : PatternCache engine} {collector : Collector}
  {ignoresCase : Bool} {text : String}

/-- A pattern that is kept is the one that compiling the text gives. -/
theorem compile_of_find? {kept : KeptPattern engine}
    (found : cache.find? collector ignoresCase text = some kept) :
    engine.compile ignoresCase text = .ok kept.pattern := by
  have tested := List.find?_some found
  simp only [Bool.and_eq_true, beq_iff_eq] at tested
  obtain ⟨⟨-, sameCase⟩, sameText⟩ := tested
  rw [← sameCase, ← sameText]
  exact kept.compiled

end PatternCache

namespace Config

section Patterns

variable (config : Config) (engine : PatternEngine) (collector : Collector) (ignoresCase : Bool)

/-- The pattern that a configuration gives, compiled anew. -/
def freshPattern : Except CollectorError engine.Compiled := do
  let text ← config.requiredString collector "regex"
  match engine.compile ignoresCase text with
  | .ok pattern => .ok pattern
  | .error message => .error (.field collector "regex" (.badPattern message))

theorem result_pattern (cache : PatternCache engine) :
    ((config.pattern engine collector ignoresCase).after cache).1 =
      config.freshPattern engine collector ignoresCase := by
  unfold pattern freshPattern
  rw [Evaluation.after_bind]
  cases config.requiredString collector "regex" with
  | error e => rfl
  | ok text =>
    change ((get >>= _ : Evaluation engine engine.Compiled).after cache).1 = _
    rw [Evaluation.after_get]
    cases found : cache.find? collector ignoresCase text with
    | some kept =>
      have compiled := PatternCache.compile_of_find? found
      simp only [bind, Except.bind, compiled]
      rfl
    | none =>
      dsimp only [bind, Except.bind]
      split
      · rename_i pattern compiled
        change Except.ok pattern = _
        rw [compiled]
      · rename_i message compiled
        change Except.error (CollectorError.field collector "regex" (.badPattern message)) = _
        rw [compiled]

theorem steady_pattern : (config.pattern engine collector ignoresCase).Steady :=
  fun cache => (config.result_pattern engine collector ignoresCase cache).trans
    (config.result_pattern engine collector ignoresCase {}).symm

theorem answer_pattern : (config.pattern engine collector ignoresCase).answer =
    config.freshPattern engine collector ignoresCase :=
  config.result_pattern engine collector ignoresCase {}

end Patterns

/-- What holds of a configuration if it holds of all that are nested in it holds of each one. -/
theorem induction {motive : Config → Prop}
    (step : ∀ config, (∀ clauses, config.clauses = .ok clauses →
      ∀ inner ∈ clauses.all, motive inner) → motive config) (config : Config) : motive config := by
  induction size : sizeOf config using Nat.strongRecOn generalizing config with
  | ind n ih =>
    refine step config fun clauses read inner member => ?_
    have smaller := sizeOf_of_clauses read member
    rw [size] at smaller
    exact ih (sizeOf inner) smaller inner rfl

end Config

namespace Registry

variable (registry : Registry) (engine : PatternEngine) (m : CodeMap) (subject : Subject)
  (config : Config)

theorem validating_eq : registry.validating engine config = (do
    match ← .ofExcept (config.collector registry) with
    | .className => discard (config.pattern engine .className true)
    | .directory => discard (config.pattern engine .directory false)
    | .inherits => discard (.ofExcept config.ancestor)
    | .combination =>
      let clauses ← .ofExcept config.clauses
      forM clauses.all (registry.validating engine)
    | .any => return ()) := by
  rw [validating]
  refine congrArg _ (funext fun collector => ?_)
  cases collector with
  | combination =>
    dsimp only
    split
    · rename_i e read
      rw [read]
      rfl
    · rename_i clauses read
      rw [read, ← List.forM_map, List.attach_map_subtype_val]
      rfl
  | _ => rfl

theorem allM_attach {μ : Type → Type} [Monad μ] {α : Type} (f : α → μ Bool) (l : List α) :
    (l.attach.allM fun a => f a.1) = l.allM f := by
  have mapped (k : List { a // a ∈ l }) : (k.allM fun a => f a.1) = (k.map (·.1)).allM f := by
    induction k with
    | nil => rfl
    | cons a k ih => rw [List.map_cons, List.allM_cons, List.allM_cons, ih]
  rw [mapped, List.attach_map_subtype_val]

theorem anyM_attach {μ : Type → Type} [Monad μ] {α : Type} (f : α → μ Bool) (l : List α) :
    (l.attach.anyM fun a => f a.1) = l.anyM f := by
  have mapped (k : List { a // a ∈ l }) : (k.anyM fun a => f a.1) = (k.map (·.1)).anyM f := by
    induction k with
    | nil => rfl
    | cons a k ih => rw [List.map_cons, List.anyM_cons, List.anyM_cons, ih]
  rw [mapped, List.attach_map_subtype_val]

/-- The answer of a combination for a class, from those of the nested configurations. -/
def combined {μ : Type → Type} [Monad μ] (f : Config → μ Bool) (clauses : Config.Clauses) : μ Bool := do
  if ← clauses.must.allM f then return !(← clauses.mustNot.anyM f) else return false

theorem satisfying_eq : registry.satisfying engine m subject config = (do
    match ← .ofExcept (config.collector registry) with
    | .className => return engine.search (← config.pattern engine .className true) subject.name
    | .directory =>
      let pattern ← config.pattern engine .directory false
      return subject.owner.any fun path => engine.search pattern path.slashed
    | .inherits => return (m.ancestors subject.name).contains (← .ofExcept config.ancestor)
    | .combination =>
      let clauses ← .ofExcept config.clauses
      combined (registry.satisfying engine m subject) clauses
    | .any => return true) := by
  rw [satisfying]
  refine congrArg _ (funext fun collector => ?_)
  cases collector with
  | combination =>
    dsimp only
    split
    · rename_i e read
      rw [read]
      rfl
    · rename_i clauses read
      rw [read, allM_attach, anyM_attach]
      rfl
  | _ => rfl

theorem steady_validating : (registry.validating engine config).Steady := by
  induction config using Config.induction with
  | step config ih =>
    rw [validating_eq]
    refine (Evaluation.steady_ofExcept _).bind fun collector => ?_
    cases collector with
    | className =>
      exact (config.steady_pattern engine .className true).bind fun _ => Evaluation.steady_pure ()
    | directory =>
      exact (config.steady_pattern engine .directory false).bind fun _ => Evaluation.steady_pure ()
    | inherits => exact (Evaluation.steady_ofExcept _).bind fun _ => Evaluation.steady_pure ()
    | combination =>
      cases read : config.clauses with
      | error e => exact Evaluation.steady_ofExcept (.error e)
      | ok clauses => exact (Evaluation.loop_forM (ih clauses read)).1
    | any => exact Evaluation.steady_pure ()

theorem loop_combined {engine : PatternEngine} {f : Config → Evaluation engine Bool}
    {clauses : Config.Clauses}
    (each : ∀ inner ∈ clauses.all, (f inner).Steady) :
    (combined f clauses).Steady ∧
      (combined f clauses).answer = combined (fun inner => (f inner).answer) clauses := by
  obtain ⟨mustSteady, mustTold⟩ := Evaluation.loop_allM fun inner member =>
    each inner (List.mem_append_left clauses.mustNot member)
  obtain ⟨mustNotSteady, mustNotTold⟩ := Evaluation.loop_anyM fun inner member =>
    each inner (List.mem_append_right clauses.must member)
  have negated : (do return !(← clauses.mustNot.anyM f)).Steady :=
    mustNotSteady.bind fun _ => Evaluation.steady_pure _
  have next (met : Bool) :
      (if met = true then do return !(← clauses.mustNot.anyM f) else return false).Steady := by
    cases met
    · exact Evaluation.steady_pure false
    · exact negated
  refine ⟨mustSteady.bind next, ?_⟩
  rw [combined, combined, mustSteady.answer_bind next, mustTold]
  refine congrArg _ (funext fun met => ?_)
  cases met
  · rfl
  · rw [if_pos rfl, if_pos rfl, mustNotSteady.answer_bind fun _ => Evaluation.steady_pure _, mustNotTold]
    rfl

theorem steady_satisfying : (registry.satisfying engine m subject config).Steady := by
  induction config using Config.induction with
  | step config ih =>
    rw [satisfying_eq]
    refine (Evaluation.steady_ofExcept _).bind fun collector => ?_
    cases collector with
    | className =>
      exact (config.steady_pattern engine .className true).bind fun _ => Evaluation.steady_pure _
    | directory =>
      exact (config.steady_pattern engine .directory false).bind fun _ => Evaluation.steady_pure _
    | inherits => exact (Evaluation.steady_ofExcept _).bind fun _ => Evaluation.steady_pure _
    | combination =>
      cases read : config.clauses with
      | error e => exact Evaluation.steady_ofExcept (.error e)
      | ok clauses => exact (loop_combined (ih clauses read)).1
    | any => exact Evaluation.steady_pure true

/-- Validation, told without the kept patterns. -/
theorem validate_eq : registry.validate engine config = (do
    match ← config.collector registry with
    | .className => discard (config.freshPattern engine .className true)
    | .directory => discard (config.freshPattern engine .directory false)
    | .inherits => discard config.ancestor
    | .combination =>
      let clauses ← config.clauses
      forM clauses.all (registry.validate engine)
    | .any => return ()) := by
  rw [validate, validating_eq]
  cases config.collector registry with
  | error e => rfl
  | ok collector =>
    cases collector with
    | className =>
      exact ((config.steady_pattern engine .className true).answer_bind
        fun _ => Evaluation.steady_pure ()).trans (by rw [Config.answer_pattern]; rfl)
    | directory =>
      exact ((config.steady_pattern engine .directory false).answer_bind
        fun _ => Evaluation.steady_pure ()).trans (by rw [Config.answer_pattern]; rfl)
    | inherits => cases config.ancestor <;> rfl
    | combination =>
      cases config.clauses with
      | error e => rfl
      | ok clauses =>
        exact (Evaluation.loop_forM fun inner _ => registry.steady_validating engine inner).2
    | any => rfl

/-- Evaluation for a class, told without the kept patterns. -/
theorem satisfies_eq : registry.satisfies engine config m subject = (do
    match ← config.collector registry with
    | .className => return engine.search (← config.freshPattern engine .className true) subject.name
    | .directory =>
      let pattern ← config.freshPattern engine .directory false
      return subject.owner.any fun path => engine.search pattern path.slashed
    | .inherits => return (m.ancestors subject.name).contains (← config.ancestor)
    | .combination =>
      let clauses ← config.clauses
      combined (registry.satisfies engine · m subject) clauses
    | .any => return true) := by
  rw [satisfies, satisfying_eq]
  cases config.collector registry with
  | error e => rfl
  | ok collector =>
    cases collector with
    | className =>
      exact ((config.steady_pattern engine .className true).answer_bind
        fun _ => Evaluation.steady_pure _).trans (by rw [Config.answer_pattern]; rfl)
    | directory =>
      exact ((config.steady_pattern engine .directory false).answer_bind
        fun _ => Evaluation.steady_pure _).trans (by rw [Config.answer_pattern]; rfl)
    | inherits => cases config.ancestor <;> rfl
    | combination =>
      cases config.clauses with
      | error e => rfl
      | ok clauses =>
        exact (loop_combined fun inner _ => registry.steady_satisfying engine m subject inner).2
    | any => rfl

end Registry

namespace GroupDefinition

variable (engine : PatternEngine) (registry : Registry) (m : CodeMap) (configs : List Config)

theorem loop_matching (entries : List (FileRecord × ClassRecord)) :
    (matching engine registry m configs entries).Steady ∧
      (matching engine registry m configs entries).answer = entries.foldr (fun entry others => do
        let met ← configs.anyM (registry.satisfies engine · m ⟨entry.2.name, some entry.1.path⟩)
        let names ← others
        return if met then entry.2.name :: names else names) (.ok []) := by
  induction entries with
  | nil => exact ⟨Evaluation.steady_pure [], rfl⟩
  | cons entry rest ih =>
    obtain ⟨file, c⟩ := entry
    obtain ⟨others, told⟩ := ih
    obtain ⟨met, metTold⟩ := Evaluation.loop_anyM fun config (_ : config ∈ configs) =>
      registry.steady_satisfying engine m ⟨c.name, some file.path⟩ config
    have next (isMet : Bool) : (do
        let names ← matching engine registry m configs rest
        return if isMet then c.name :: names else names).Steady :=
      others.bind fun _ => Evaluation.steady_pure _
    rw [matching, List.foldr_cons, ← told]
    refine ⟨met.bind next, ?_⟩
    rw [met.answer_bind next, metTold]
    refine congrArg _ (funext fun isMet => ?_)
    exact others.answer_bind fun _ => Evaluation.steady_pure _

theorem steady_members : (members engine registry m configs).Steady :=
  (Evaluation.loop_forM fun config _ => registry.steady_validating engine config).1.bind fun _ =>
    (loop_matching engine registry m configs m.entries).1.bind fun _ => Evaluation.steady_pure _

theorem answer_members : (members engine registry m configs).answer = (do
    forM configs (registry.validate engine)
    return inOrder Text.before (← (matching engine registry m configs m.entries).answer)) := by
  have validated := Evaluation.loop_forM fun config (_ : config ∈ configs) =>
    registry.steady_validating engine config
  have matched := (loop_matching engine registry m configs m.entries).1
  rw [members, validated.1.answer_bind fun _ => matched.bind fun _ => Evaluation.steady_pure _,
    validated.2]
  refine congrArg _ (funext fun _ => ?_)
  exact matched.answer_bind fun _ => Evaluation.steady_pure _

end GroupDefinition

namespace Classification

/-- Groups are sorted out as if each were the first one. -/
theorem result_evaluating (engine : PatternEngine) (registry : Registry) (m : CodeMap)
    (definitions : List GroupDefinition) (cache : PatternCache engine) :
    ((evaluating engine registry m definitions).run cache).1 =
      (GroupDefinition.arrange definitions).foldl (fun c d =>
        c.addGroup d.name (GroupDefinition.members engine registry m d.configs).answer) {} := by
  unfold evaluating
  generalize GroupDefinition.arrange definitions = arranged
  generalize ({} : Classification) = start
  induction arranged generalizing start cache with
  | nil => rfl
  | cons d rest ih =>
    have first := GroupDefinition.steady_members engine registry m d.configs cache
    rw [List.foldlM_cons, List.foldl_cons, ← first]
    exact ih ((GroupDefinition.members engine registry m d.configs).after cache).2 _

end Classification

/-- Calls that are made to the collectors of a registry. -/
inductive CollectorCall where
  | validate (config : Config)
  | satisfies (config : Config) (m : CodeMap) (subject : Subject)
  | classify (m : CodeMap) (definitions : List GroupDefinition)

namespace Registry

variable (registry : Registry) (engine : PatternEngine)

/-- The patterns that are kept behind a call. -/
def keptBy (cache : PatternCache engine) : CollectorCall → PatternCache engine
  | .validate config => ((registry.validating engine config).after cache).2
  | .satisfies config m subject => ((registry.satisfying engine m subject config).after cache).2
  | .classify m definitions =>
    ((Classification.evaluating engine registry m definitions).run cache).2

/-- The patterns that are kept behind several calls. -/
def keptBehind (calls : List CollectorCall) : PatternCache engine :=
  calls.foldl (registry.keptBy engine) {}

end Registry

end ClassGraph
